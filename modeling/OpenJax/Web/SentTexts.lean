import OpenJax.Web.Unsent

set_option autoImplicit false

namespace OpenJax.Web

open Shared

variable (host : Host) (sessionId : String)

def ChatMessage.sentIds (content : String) (message : ChatMessage) : List MessageId :=
  if isSentText content none message then [message.id] else []

def sentIds (content : String) (view : LiveView) : List MessageId :=
  view.session.messages.flatMap (ChatMessage.sentIds content)

def isEcho (content : String) (event : StreamEvent) : Bool :=
  event.type = .userMessage && event.turnId = none &&
    event.payload.text host "content" "" = content

def echoes (content : String) (view : LiveView) : PendingStep → Bool
  | .live (.event event) =>
      isEcho host content event && (view.accept sessionId event).isSome &&
        !isDuplicate view.session event
  | .live (.frame _) | .live .effect => false
  | .replayed event => isEcho host content event && !isDuplicate view.session event

section

variable {host} {sessionId} {content : String} {id : MessageId} {messages : List ChatMessage}
  {event : StreamEvent} {view : LiveView} {step : PendingStep} {ids : List MessageId}

theorem sentIds_view (content : String) : UserView (ChatMessage.sentIds content) where
  others message other := by
    rw [ChatMessage.sentIds, if_neg]
    exact fun sent => other (user_of_sent sent)
  drafts _ := rfl

def nextIds (echo : Bool) (ids : List MessageId) : List MessageId :=
  if echo && ids.isEmpty then [.generated] else ids

theorem nextIds_other (ids : List MessageId) : nextIds false ids = ids := by
  simp [nextIds]

theorem nextIds_filled {echo : Bool} (filled : ids ≠ []) : nextIds echo ids = ids := by
  simp [nextIds, filled]

theorem sentIds_applyUserMessage (user : event.type = .userMessage) :
    (applyUserMessage host messages event).flatMap (ChatMessage.sentIds content) =
      nextIds (isEcho host content event) (messages.flatMap (ChatMessage.sentIds content)) := by
  unfold applyUserMessage
  simp only
  split
  next index found =>
    obtain ⟨message, there, holds⟩ := findIdx?_item found
    simp only [Bool.and_eq_true, decide_eq_true_eq] at holds
    obtain ⟨⟨⟨kind, role⟩, same⟩, turn⟩ := holds
    have kept : (messages.modify index fun message =>
        { message with
          timestamp := event.timestamp
          startEventSeq := message.startEventSeq.or (some event.eventSeq)
          lastEventSeq := latest message.lastEventSeq event.eventSeq
          turnId := event.turnId }).flatMap (ChatMessage.sentIds content) =
        messages.flatMap (ChatMessage.sentIds content) := by
      apply flatMap_modify_found there
      simp [ChatMessage.sentIds, isSentText, turn]
    rw [kept]
    cases echo : isEcho host content event with
    | false => rw [nextIds_other]
    | true =>
      -- The text that is found is one of the content.
      rw [nextIds_filled]
      simp only [isEcho, Bool.and_eq_true, decide_eq_true_eq] at echo
      intro nothing
      have unseen := List.flatMap_eq_nil_iff.mp nothing message (List.mem_of_getElem? there)
      simp [ChatMessage.sentIds, isSentText, kind, role, same, turn, echo.1.2, echo.2] at unseen
  next missing =>
    rw [List.flatMap_append, List.flatMap_singleton]
    cases echo : isEcho host content event with
    | false =>
      have other : ¬(event.payload.text host "content" "" = content ∧ event.turnId = none) := by
        rintro ⟨same, turn⟩
        simp [isEcho, user, same, turn] at echo
      simp [nextIds_other, ChatMessage.sentIds, isSentText, other]
    | true =>
      simp only [isEcho, Bool.and_eq_true, decide_eq_true_eq] at echo
      have nothing : messages.flatMap (ChatMessage.sentIds content) = [] := by
        apply List.flatMap_eq_nil_iff.mpr
        intro message member
        have fails := List.findIdx?_eq_none_iff.mp missing message member
        rw [echo.1.2, echo.2] at fails
        rw [ChatMessage.sentIds, isSentText, fails]
        rfl
      rw [nothing]
      simp [nextIds, ChatMessage.sentIds, isSentText, echo.1.2, echo.2]

theorem sentIds_applyMessages :
    (applyMessages host messages event).flatMap (ChatMessage.sentIds content) =
      nextIds (isEcho host content event) (messages.flatMap (ChatMessage.sentIds content)) := by
  rw [(sentIds_view content).applyMessages]
  split
  next user => exact sentIds_applyUserMessage user
  next other =>
    have silent : isEcho host content event = false := by simp [isEcho, other]
    rw [silent, nextIds_other]

theorem sentIds_applySingle {session : ChatSession} :
    (applySingleSessionEvent host session event).messages.flatMap (ChatMessage.sentIds content) =
      nextIds (isEcho host content event && !isDuplicate session event)
        (session.messages.flatMap (ChatMessage.sentIds content)) := by
  unfold applySingleSessionEvent
  split
  next seen => rw [seen, Bool.not_true, Bool.and_false, nextIds_other]
  next fresh =>
    rw [Bool.not_eq_true] at fresh
    rw [fresh, Bool.not_false, Bool.and_true]
    exact sentIds_applyMessages

variable {ρ : Type} {look : ChatMessage → List ρ} {session : ChatSession}

theorem touch_unseen (blind : Blind look) (turnId : Option String) (eventSeq : Nat)
    (timestamp : String) :
    (touchAssistantTextSeqInSession session turnId eventSeq timestamp).messages.flatMap look =
      session.messages.flatMap look := by
  unfold touchAssistantTextSeqInSession
  cases truthy turnId with
  | none => rfl
  | some turn =>
    simp only [Option.bind_some]
    split
    · rfl
    next found =>
      obtain ⟨message, there, own, -⟩ := findAssistantMessageIndex_some found
      exact (TextChange.changed _ there own own).unseen blind

theorem started_unseen (blind : Blind look) (event : StreamEvent) :
    (applyResponseStartedSession session event).session.messages.flatMap look =
      session.messages.flatMap look := by
  unfold applyResponseStartedSession
  cases truthy event.turnId with
  | none => rfl
  | some turn =>
    simp only
    cases found : findAssistantMessageIndex session.messages turn
        (responseSegmentIdFromEvent event) with
    | none =>
      apply pushed_unseen
      exact blind _ rfl
    | some index =>
      obtain ⟨message, there, own, -⟩ := findAssistantMessageIndex_some found
      simp only [Option.bind_some, there, Option.map_some]
      exact (TextChange.changed _ there own (by exact own)).unseen blind

theorem completed_unseen (blind : Blind look) (event : StreamEvent) (finalized : String) :
    (applyResponseCompletedSession session event finalized).messages.flatMap look =
      session.messages.flatMap look := by
  unfold applyResponseCompletedSession
  cases truthy event.turnId with
  | none => rfl
  | some turn =>
    simp only
    cases found : findAssistantMessageIndex session.messages turn
        (responseSegmentIdFromEvent event) with
    | none =>
      apply pushed_unseen
      exact blind _ rfl
    | some index =>
      obtain ⟨message, there, own, -⟩ := findAssistantMessageIndex_some found
      simp only [Option.bind_some, there, Option.map_some]
      exact (TextChange.changed _ there own (by exact own)).unseen blind

theorem closeReasoning_unseen (blind : Blind look) (turnId : Option String) (eventSeq : Nat)
    (timestamp : String) :
    (closeOpenReasoningBlockInSession session turnId eventSeq timestamp).messages.flatMap look =
      session.messages.flatMap look := by
  unfold closeOpenReasoningBlockInSession
  cases truthy turnId with
  | none => rfl
  | some turn =>
    apply flatMap_map_same
    intro message
    split
    next own =>
      simp only [isOfTurn, Bool.and_eq_true] at own
      rw [blind message own.2]
      exact blind _ own.2
    · rfl

theorem accept_session {next : LiveView} (accepted : view.accept sessionId event = some next) :
    next.session = view.session := by
  unfold LiveView.accept at accepted
  simp only at accepted
  split at accepted
  · cases accepted
  · cases accepted
    rfl

theorem sentIds_onOtherEvent :
    sentIds content (onOtherEvent host sessionId view event) =
      nextIds (isEcho host content event && !isDuplicate view.session event)
        (sentIds content view) := by
  unfold sentIds onOtherEvent
  simp only
  split
  next seen => rw [seen, Bool.not_true, Bool.and_false, nextIds_other]
  · exact sentIds_applySingle

theorem sentIds_applyIncoming {next : LiveView}
    (accepted : view.accept sessionId event = some next) :
    sentIds content (applyIncomingEvent host sessionId view event) =
      nextIds (isEcho host content event && !isDuplicate view.session event)
        (sentIds content view) := by
  have blind := (sentIds_view content).blind
  have same := accept_session accepted
  have before : sentIds content next = sentIds content view := by rw [sentIds, same, sentIds]
  -- The types that the live view handles by itself are not those of a user's message.
  have silent (other : event.type ≠ .userMessage) : isEcho host content event = false := by
    simp [isEcho, other]
  unfold applyIncomingEvent
  rw [accepted]
  cases type : event.type with
  | responseTextDelta =>
    rw [silent (by simp [type]), Bool.false_and, nextIds_other, ← before]
    exact touch_unseen blind _ _ _
  | responseStarted | responseResumed =>
    rw [silent (by simp [type]), Bool.false_and, nextIds_other, ← before]
    unfold sentIds onResponseStarted
    simp only
    split
    · exact started_unseen blind event
    · rfl
  | responseCompleted =>
    rw [silent (by simp [type]), Bool.false_and, nextIds_other, ← before]
    unfold sentIds onResponseCompleted
    simp only
    generalize (if event.payload.text host "content" "" ≠ "" then _ else _) = finalized
    split
    · exact (completed_unseen blind event finalized).trans (closeReasoning_unseen blind _ _ _)
    · rfl
  | _ =>
    rw [← before, ← same]
    exact sentIds_onOtherEvent

theorem sentIds_step :
    sentIds content (pendingStep host sessionId view step) =
      nextIds (echoes host sessionId content view step) (sentIds content view) := by
  cases step with
  | replayed event => exact sentIds_applySingle
  | live step =>
    cases step with
    | frame key => exact (nextIds_other _).symm
    | effect => exact (nextIds_other _).symm
    | event event =>
      rw [echoes]
      cases accepted : view.accept sessionId event with
      | none =>
        have ignored : pendingStep host sessionId view (.live (.event event)) = view := by
          simp [pendingStep, liveStep, applyIncomingEvent, accepted]
        rw [ignored, Option.isSome_none, Bool.and_false, Bool.false_and, nextIds_other]
      | some next =>
        rw [Option.isSome_some, Bool.and_true]
        exact sentIds_applyIncoming accepted

end

end OpenJax.Web
