import OpenJax.Web.Replays
import OpenJax.Web.SendMessage

set_option autoImplicit false

namespace OpenJax.Web

open Shared

structure Unused (id : MessageId) : Prop where
  generated : MessageId.generated ≠ id
  drafts : ∀ turnId segment, buildAssistantDraftId turnId segment ≠ id

def isSentText (content : String) (turnId : Option String) (message : ChatMessage) : Bool :=
  message.kind = .text && message.role = .user && message.content = content &&
    message.turnId = turnId

structure Aside (id : MessageId) (content : String) (sent unsent : List ChatMessage) : Prop where
  kept : unsent = sent.filter fun message => message.id ≠ id
  own : ∀ message ∈ sent, message.id = id → isSentText content none message
  unused : Unused id

section

variable {id : MessageId} {content : String} {sent unsent : List ChatMessage}
  {message : ChatMessage} {index : Nat} {change : ChatMessage → ChatMessage}
  {test : ChatMessage → Bool} {turnId : String} {event : StreamEvent} {host : Host}

def placeWithout (id : MessageId) (messages : List ChatMessage) (index : Nat) : Nat :=
  keptIndex (fun message : ChatMessage => decide (message.id ≠ id)) messages index

theorem Aside.push (aside : Aside id content sent unsent) (other : message.id ≠ id) :
    Aside id content (sent ++ [message]) (unsent ++ [message]) := by
  refine ⟨?_, ?_, aside.unused⟩
  · simp [aside.kept, other]
  · exact forall_push aside.own fun same => absurd same other

theorem Aside.map (aside : Aside id content sent unsent)
    (same : ∀ message, (change message).id = message.id ∧
      ∀ content turnId, isSentText content turnId (change message) =
        isSentText content turnId message) :
    Aside id content (sent.map change) (unsent.map change) := by
  refine ⟨?_, ?_, aside.unused⟩
  · rw [aside.kept, filter_map_same]
    intro message
    rw [(same message).1]
  · rw [List.forall_mem_map]
    intro message member
    rw [(same message).1, (same message).2]
    exact aside.own message member

theorem Aside.modify (aside : Aside id content sent unsent) (there : sent[index]? = some message)
    (other : message.id ≠ id) (same : (change message).id = message.id) :
    Aside id content (sent.modify index change)
      (unsent.modify (placeWithout id sent index) change) := by
  refine ⟨?_, ?_, aside.unused⟩
  · rw [aside.kept, placeWithout, filter_modify there (by simpa using other)]
    rw [same]
    simpa using other
  · apply forall_modify aside.own there
    intro own
    rw [same] at own
    exact absurd own other

theorem Aside.get (aside : Aside id content sent unsent) (there : sent[index]? = some message)
    (other : message.id ≠ id) : unsent[placeWithout id sent index]? = some message := by
  rw [aside.kept]
  exact get_kept there (by simpa using other)

theorem user_of_sent {turn : Option String} (sent : isSentText content turn message) :
    message.kind = .text ∧ message.role = .user := by
  simp only [isSentText, Bool.and_eq_true, decide_eq_true_eq] at sent
  exact sent.1.1

theorem Aside.other (aside : Aside id content sent unsent) (there : sent[index]? = some message)
    (another : ¬(message.kind = .text ∧ message.role = .user)) : message.id ≠ id :=
  fun same => another (user_of_sent (aside.own message (List.mem_of_getElem? there) same))

theorem not_user_of_turn (own : isOfTurn turnId message) :
    ¬(message.kind = .text ∧ message.role = .user) := by
  simp only [isOfTurn, isAssistantText, Bool.and_eq_true, decide_eq_true_eq] at own
  simp [own.2.2]

theorem Aside.lastIndex (aside : Aside id content sent unsent)
    (blind : ∀ message, test message → ¬(message.kind = .text ∧ message.role = .user)) :
    lastIndex test unsent = (lastIndex test sent).map (placeWithout id sent) := by
  rw [aside.kept]
  apply lastIndex_filter
  intro message member holds
  simpa using fun same => blind message holds (user_of_sent (aside.own message member same))

theorem Aside.findIdx? (aside : Aside id content sent unsent)
    (other : ∀ index message, sent.findIdx? test = some index → sent[index]? = some message →
      message.id ≠ id) :
    unsent.findIdx? test = (sent.findIdx? test).map (placeWithout id sent) := by
  rw [aside.kept]
  apply findIdx?_filter
  intro index message found there
  simpa using other index message found there

theorem Aside.findIdx?_turn (aside : Aside id content sent unsent)
    (turn : ∀ message, test message → isOfTurn turnId message) :
    unsent.findIdx? test = (sent.findIdx? test).map (placeWithout id sent) := by
  apply aside.findIdx?
  intro index message found there
  obtain ⟨item, inside, holds⟩ := findIdx?_item found
  cases there.symm.trans inside
  exact aside.other there (not_user_of_turn (turn message holds))

theorem Aside.findAssistantMessageIndex (aside : Aside id content sent unsent) (turnId : String)
    (segment : Option String) :
    findAssistantMessageIndex unsent turnId segment =
      (findAssistantMessageIndex sent turnId segment).map (placeWithout id sent) := by
  apply aside.lastIndex
  intro message holds
  rw [Bool.and_eq_true] at holds
  exact not_user_of_turn holds.1

theorem Aside.findAssistantDraftIndex (aside : Aside id content sent unsent) (turnId : String)
    (segment : Option String) :
    findAssistantDraftIndex unsent turnId segment =
      (findAssistantDraftIndex sent turnId segment).map (placeWithout id sent) := by
  have draft : Shared.lastIndex (fun message =>
        isOfTurn turnId message && message.isDraft && inSegment segment message) unsent =
      (Shared.lastIndex (fun message =>
        isOfTurn turnId message && message.isDraft && inSegment segment message) sent).map
        (placeWithout id sent) := by
    apply aside.lastIndex
    intro message holds
    simp only [Bool.and_eq_true] at holds
    exact not_user_of_turn holds.1.1
  have place : Shared.lastIndex (fun message =>
        isOfTurn turnId message && message.responseSegmentId = segment) unsent =
      (Shared.lastIndex (fun message =>
        isOfTurn turnId message && message.responseSegmentId = segment) sent).map
        (placeWithout id sent) := by
    apply aside.lastIndex
    intro message holds
    rw [Bool.and_eq_true] at holds
    exact not_user_of_turn holds.1
  unfold Web.findAssistantDraftIndex
  simp only
  rw [draft, place]
  cases Shared.lastIndex (fun message =>
      isOfTurn turnId message && message.isDraft && inSegment segment message) sent with
  | some index => rfl
  | none =>
    cases segment with
    | none => rfl
    | some segment => rfl

theorem Aside.reasoningTarget (aside : Aside id content sent unsent) (turnId : String)
    (segment : Option String) :
    reasoningTarget unsent turnId segment =
      (reasoningTarget sent turnId segment).map (placeWithout id sent) := by
  have block (segment : String) :
      findAssistantMessageIndexByReasoningSegment unsent turnId segment =
        (findAssistantMessageIndexByReasoningSegment sent turnId segment).map
          (placeWithout id sent) := by
    apply aside.lastIndex
    intro message holds
    rw [Bool.and_eq_true] at holds
    exact not_user_of_turn holds.1
  unfold Web.reasoningTarget
  rw [aside.findAssistantMessageIndex]
  cases truthy segment with
  | none => rfl
  | some segment =>
    simp only [block]
    cases findAssistantMessageIndexByReasoningSegment sent turnId segment <;> rfl

theorem Aside.findToolStepMessageIndex (aside : Aside id content sent unsent) (host : Host)
    (event : StreamEvent) :
    findToolStepMessageIndex host unsent event =
      (findToolStepMessageIndex host sent event).map (placeWithout id sent) := by
  unfold Web.findToolStepMessageIndex
  cases resolveAggregationKey host event with
  | none => rfl
  | some key =>
    apply aside.lastIndex
    intro message holds
    simp only [Bool.and_eq_true, decide_eq_true_eq] at holds
    simp [holds.1.1]

theorem Aside.write (aside : Aside id content sent unsent)
    (found : ∃ message, sent[index]? = some message ∧ isOfTurn turnId message)
    (same : ∀ message, (change message).id = message.id) :
    Aside id content (sent.modify index change)
      (unsent.modify (placeWithout id sent index) change) := by
  obtain ⟨message, there, own⟩ := found
  exact aside.modify there (aside.other there (not_user_of_turn own)) (same message)

theorem Aside.appendReasoningDelta (aside : Aside id content sent unsent)
    (turnId delta timestamp : String) (eventSeq : Nat) (reasoning : Option String) :
    Aside id content (appendReasoningDelta sent turnId delta timestamp eventSeq reasoning)
      (appendReasoningDelta unsent turnId delta timestamp eventSeq reasoning) := by
  by_cases nothing : delta = ""
  · rw [Web.appendReasoningDelta, Web.appendReasoningDelta, if_pos nothing, if_pos nothing]
    exact aside
  · rw [appendReasoningDelta_target nothing, appendReasoningDelta_target nothing,
      aside.reasoningTarget]
    cases found : Web.reasoningTarget sent turnId reasoning with
    | none => exact aside.push aside.unused.generated
    | some index => exact aside.write (reasoningTarget_own found) fun _ => rfl

theorem Aside.mergeAssistantDraft (aside : Aside id content sent unsent)
    (turnId delta timestamp : String) (canonical : Bool) (event : StreamEvent) :
    Aside id content (mergeAssistantDraft sent turnId delta timestamp canonical event)
      (mergeAssistantDraft unsent turnId delta timestamp canonical event) := by
  unfold Web.mergeAssistantDraft
  simp only
  rw [aside.findAssistantDraftIndex]
  cases found : Web.findAssistantDraftIndex sent turnId (responseSegmentIdFromEvent event) with
  | none => exact aside.push (aside.unused.drafts _ _)
  | some index =>
    apply aside.write (findAssistantDraftIndex_own found)
    intro message
    split <;> rfl

theorem Aside.finalizeAssistantMessageFallback (aside : Aside id content sent unsent)
    (turnId text timestamp : String) (event : StreamEvent) :
    Aside id content (finalizeAssistantMessageFallback sent turnId text timestamp event)
      (finalizeAssistantMessageFallback unsent turnId text timestamp event) := by
  have draft : unsent.findIdx? (fun message => isOfTurn turnId message && message.isDraft) =
      (sent.findIdx? fun message => isOfTurn turnId message && message.isDraft).map
        (placeWithout id sent) := by
    apply aside.findIdx?_turn
    intro message holds
    rw [Bool.and_eq_true] at holds
    exact holds.1
  have any : unsent.findIdx? (isOfTurn turnId) =
      (sent.findIdx? (isOfTurn turnId)).map (placeWithout id sent) :=
    aside.findIdx?_turn fun _ own => own
  unfold Web.finalizeAssistantMessageFallback
  rw [draft, any]
  cases found : sent.findIdx? fun message => isOfTurn turnId message && message.isDraft with
  | some index =>
    obtain ⟨message, there, holds⟩ := findIdx?_item found
    rw [Bool.and_eq_true] at holds
    exact aside.write ⟨message, there, holds.1⟩ fun _ => rfl
  | none =>
    cases other : sent.findIdx? (isOfTurn turnId) with
    | some index => exact aside.write (findIdx?_item other) fun _ => rfl
    | none =>
      by_cases nothing : text = ""
      · simpa [nothing] using aside
      · simpa [nothing] using aside.push aside.unused.generated

theorem Aside.sealAssistantMessage (aside : Aside id content sent unsent)
    (turnId text timestamp : String) (event : StreamEvent) :
    Aside id content (sealAssistantMessage sent turnId text timestamp event)
      (sealAssistantMessage unsent turnId text timestamp event) := by
  have first : unsent.findIdx? (fun message => isOfTurn turnId message &&
        inSegment (responseSegmentIdFromEvent event) message) =
      (sent.findIdx? fun message => isOfTurn turnId message &&
        inSegment (responseSegmentIdFromEvent event) message).map (placeWithout id sent) := by
    apply aside.findIdx?_turn
    intro message holds
    rw [Bool.and_eq_true] at holds
    exact holds.1
  unfold Web.sealAssistantMessage
  simp only
  rw [aside.findAssistantDraftIndex, first]
  cases found : Web.findAssistantDraftIndex sent turnId (responseSegmentIdFromEvent event) with
  | some index => exact aside.write (findAssistantDraftIndex_own found) fun _ => rfl
  | none =>
    cases other : sent.findIdx? fun message => isOfTurn turnId message &&
        inSegment (responseSegmentIdFromEvent event) message with
    | some index =>
      obtain ⟨message, there, holds⟩ := findIdx?_item other
      rw [Bool.and_eq_true] at holds
      exact aside.write ⟨message, there, holds.1⟩ fun _ => rfl
    | none =>
      by_cases nothing : text = ""
      · simpa [nothing] using aside
      · simpa [nothing] using aside.push (aside.unused.drafts _ _)

theorem Aside.interruptTurn (aside : Aside id content sent unsent) (turnId : String)
    (event : StreamEvent) :
    Aside id content (interruptTurn sent turnId event) (interruptTurn unsent turnId event) := by
  apply aside.map
  intro message
  split <;> exact ⟨rfl, fun _ _ => rfl⟩

theorem Aside.closeOpenReasoningBlock (aside : Aside id content sent unsent) (turnId : String)
    (eventSeq : Nat) (timestamp : String) :
    Aside id content (closeOpenReasoningBlock sent turnId eventSeq timestamp)
      (closeOpenReasoningBlock unsent turnId eventSeq timestamp) := by
  apply aside.map
  intro message
  split <;> exact ⟨rfl, fun _ _ => rfl⟩

theorem Aside.markTurnDraftFinal (aside : Aside id content sent unsent) (turnId : Option String) :
    Aside id content (markTurnDraftFinal sent turnId) (markTurnDraftFinal unsent turnId) := by
  unfold Web.markTurnDraftFinal
  cases truthy turnId with
  | none => exact aside
  | some turn =>
    apply aside.map
    intro message
    split <;> exact ⟨rfl, fun _ _ => rfl⟩

theorem Aside.upsertToolStepMessage (aside : Aside id content sent unsent) (host : Host)
    (event : StreamEvent) :
    Aside id content (upsertToolStepMessage host sent event)
      (upsertToolStepMessage host unsent event) := by
  unfold Web.upsertToolStepMessage
  rw [aside.findToolStepMessageIndex]
  cases found : Web.findToolStepMessageIndex host sent event with
  | none => exact aside.push aside.unused.generated
  | some index =>
    obtain ⟨message, _, _, there, _, kind, _⟩ := findToolStepMessageIndex_some found
    exact aside.modify there (aside.other there (by simp [kind])) rfl

/-- A user's message of the event goes to another one than the text that is only shown. -/
def Spares (host : Host) (id : MessageId) (messages : List ChatMessage) (event : StreamEvent) :
    Prop :=
  ∀ index message,
    messages.findIdx? (isSentText (event.payload.text host "content" "") event.turnId) =
      some index → messages[index]? = some message → message.id ≠ id

theorem Aside.applyUserMessage (aside : Aside id content sent unsent)
    (spares : Spares host id sent event) :
    Aside id content (applyUserMessage host sent event) (applyUserMessage host unsent event) := by
  have search (messages : List ChatMessage) :
      (messages.findIdx? fun message =>
        message.kind = .text && message.role = .user &&
          message.content = event.payload.text host "content" "" &&
          message.turnId = event.turnId) =
        messages.findIdx? (isSentText (event.payload.text host "content" "") event.turnId) := rfl
  unfold Web.applyUserMessage
  simp only [search]
  rw [aside.findIdx? spares]
  cases found : sent.findIdx? (isSentText (event.payload.text host "content" "") event.turnId) with
  | some index =>
    obtain ⟨message, there, -⟩ := findIdx?_item found
    exact aside.modify there (spares index message found there) rfl
  | none => exact aside.push aside.unused.generated

theorem Aside.closeReasoningOn (aside : Aside id content sent unsent) (event : StreamEvent) :
    Aside id content (closeReasoningOn sent event) (closeReasoningOn unsent event) := by
  unfold Web.closeReasoningOn
  cases truthy event.turnId with
  | none => exact aside
  | some turnId =>
    simp only
    split
    · exact aside.closeOpenReasoningBlock _ _ _
    · exact aside

theorem Aside.applyTextEvent (aside : Aside id content sent unsent) (host : Host)
    (event : StreamEvent) :
    Aside id content (applyTextEvent host sent event) (applyTextEvent host unsent event) := by
  unfold Web.applyTextEvent
  cases truthy event.turnId with
  | none => exact aside
  | some turnId =>
    cases event.type with
    | reasoningDelta => exact aside.appendReasoningDelta _ _ _ _ _
    | responseTextDelta => exact aside.mergeAssistantDraft _ _ _ _ _
    | assistantMessage => exact aside.finalizeAssistantMessageFallback _ _ _ _
    | responseCompleted => exact aside.sealAssistantMessage _ _ _ _
    | turnInterrupted => exact aside.interruptTurn _ _
    | _ => exact aside

theorem Aside.when {sentAfter unsentAfter : List ChatMessage} (condition : Prop)
    [Decidable condition] (aside : Aside id content sent unsent)
    (after : condition → Aside id content sentAfter unsentAfter) :
    Aside id content (if condition then sentAfter else sent)
      (if condition then unsentAfter else unsent) := by
  split
  next holds => exact after holds
  · exact aside

theorem Aside.applyMessages (aside : Aside id content sent unsent)
    (spares : event.type = .userMessage → Spares host id sent event) :
    Aside id content (applyMessages host sent event) (applyMessages host unsent event) := by
  have told := aside.when (event.type = .userMessage) fun user =>
    aside.applyUserMessage (spares user)
  have written := (told.closeReasoningOn event).applyTextEvent host event
  have stepped := written.when (isToolStepEvent event) fun _ =>
    written.upsertToolStepMessage host event
  have ended := stepped.when (endsDrafts event) fun _ => stepped.markTurnDraftFinal event.turnId
  exact ended.when (isErrorEvent event) fun _ => ended.push ended.unused.generated

end

structure PhasesBeside (prior sent unsent : TurnPhase) : Prop where
  calm : unsent ≠ .submitting
  beside : sent = unsent ∨ sent = .submitting ∧ unsent = prior

inductive SessionBeside (id : MessageId) (content : String) (prior : TurnPhase)
    (sent : ChatSession) : ChatSession → Prop
  | mk (messages : List ChatMessage) (phase : TurnPhase)
      (aside : Aside id content sent.messages messages)
      (phases : PhasesBeside prior sent.turnPhase phase) :
      SessionBeside id content prior sent { sent with messages := messages, turnPhase := phase }

section

variable {id : MessageId} {content : String} {prior phase : TurnPhase} {sent unsent : ChatSession}
  {host : Host}

theorem PhasesBeside.same (calm : phase ≠ .submitting) : PhasesBeside prior phase phase :=
  ⟨calm, .inl rfl⟩

theorem PhasesBeside.applyPhase {sent unsent : TurnPhase}
    (phases : PhasesBeside prior sent unsent) (idle : prior ≠ .streaming) (event : StreamEvent) :
    PhasesBeside prior (applyPhase sent event) (applyPhase unsent event) := by
  obtain ⟨calm, beside⟩ := phases
  unfold Web.applyPhase
  rcases beside with rfl | ⟨rfl, rfl⟩
  · cases event.type with
    | sessionShutdown =>
      apply PhasesBeside.same
      simp only
      split
      · simp
      · exact calm
    | turnStarted | responseStarted | responseResumed | turnCompleted | responseCompleted
    | turnInterrupted | error | responseError => exact .same (by simp)
    | _ => exact .same calm
  · cases event.type with
    | sessionShutdown =>
      simp only [idle, if_false, reduceCtorEq]
      exact ⟨calm, .inr ⟨rfl, rfl⟩⟩
    | turnStarted | responseStarted | responseResumed | turnCompleted | responseCompleted
    | turnInterrupted | error | responseError => exact .same (by simp)
    | _ => exact ⟨calm, .inr ⟨rfl, rfl⟩⟩

theorem SessionBeside.applySingle {event : StreamEvent}
    (beside : SessionBeside id content prior sent unsent) (idle : prior ≠ .streaming)
    (spares : isDuplicate sent event = false → event.type = .userMessage →
      Spares host id sent.messages event) :
    SessionBeside id content prior (applySingleSessionEvent host sent event)
      (applySingleSessionEvent host unsent event) := by
  cases beside with
  | mk messages phase aside phases =>
    have same : isDuplicate { sent with messages := messages, turnPhase := phase } event =
        isDuplicate sent event := rfl
    unfold applySingleSessionEvent
    rw [same]
    split
    · exact .mk messages phase aside phases
    next fresh =>
      exact .mk _ _ (aside.applyMessages (spares (by simpa using fresh)))
        (phases.applyPhase idle event)

theorem SessionBeside.touch (beside : SessionBeside id content prior sent unsent)
    (turnId : Option String) (eventSeq : Nat) (timestamp : String) :
    SessionBeside id content prior (touchAssistantTextSeqInSession sent turnId eventSeq timestamp)
      (touchAssistantTextSeqInSession unsent turnId eventSeq timestamp) := by
  cases beside with
  | mk messages phase aside phases =>
    unfold touchAssistantTextSeqInSession
    cases truthy turnId with
    | none => exact .mk messages phase aside phases
    | some turn =>
      simp only [Option.bind_some, aside.findAssistantMessageIndex]
      cases found : findAssistantMessageIndex sent.messages turn none with
      | none => exact .mk messages phase aside phases
      | some index =>
        obtain ⟨message, there, own, -⟩ := findAssistantMessageIndex_some found
        exact .mk _ _ (aside.write ⟨message, there, own⟩ fun _ => rfl) phases

theorem SessionBeside.closeReasoning (beside : SessionBeside id content prior sent unsent)
    (turnId : Option String) (eventSeq : Nat) (timestamp : String) :
    SessionBeside id content prior
      (closeOpenReasoningBlockInSession sent turnId eventSeq timestamp)
      (closeOpenReasoningBlockInSession unsent turnId eventSeq timestamp) := by
  cases beside with
  | mk messages phase aside phases =>
    unfold closeOpenReasoningBlockInSession
    cases truthy turnId with
    | none => exact .mk messages phase aside phases
    | some turn => exact .mk _ _ (aside.closeOpenReasoningBlock turn eventSeq timestamp) phases

theorem SessionBeside.connected (beside : SessionBeside id content prior sent unsent)
    (connection : SessionConnection) :
    SessionBeside id content prior { sent with connection := connection }
      { unsent with connection := connection } := by
  cases beside with
  | mk messages phase aside phases => exact .mk messages phase aside phases

theorem SessionBeside.started (beside : SessionBeside id content prior sent unsent)
    (event : StreamEvent) :
    (applyResponseStartedSession unsent event).messageId =
        (applyResponseStartedSession sent event).messageId ∧
      (applyResponseStartedSession unsent event).content =
        (applyResponseStartedSession sent event).content ∧
      SessionBeside id content prior (applyResponseStartedSession sent event).session
        (applyResponseStartedSession unsent event).session := by
  cases beside with
  | mk messages phase aside phases =>
    unfold applyResponseStartedSession
    cases truthy event.turnId with
    | none => exact ⟨rfl, rfl, .mk messages phase aside phases⟩
    | some turn =>
      simp only [aside.findAssistantMessageIndex]
      cases found : findAssistantMessageIndex sent.messages turn
          (responseSegmentIdFromEvent event) with
      | none =>
        exact ⟨rfl, rfl, .mk _ _ (aside.push (aside.unused.drafts _ _)) (.same (by simp))⟩
      | some index =>
        obtain ⟨message, there, own, -⟩ := findAssistantMessageIndex_some found
        have inside := aside.get there (aside.other there (not_user_of_turn own))
        simp only [Option.map_some, Option.bind_some, there, inside, true_and]
        exact .mk _ _ (aside.write ⟨message, there, own⟩ fun _ => rfl) (.same (by simp))

theorem SessionBeside.completed (beside : SessionBeside id content prior sent unsent)
    (event : StreamEvent) (finalized : String) :
    SessionBeside id content prior (applyResponseCompletedSession sent event finalized)
      (applyResponseCompletedSession unsent event finalized) := by
  cases beside with
  | mk messages phase aside phases =>
    unfold applyResponseCompletedSession
    cases truthy event.turnId with
    | none => exact .mk messages phase aside phases
    | some turn =>
      simp only [aside.findAssistantMessageIndex]
      cases found : findAssistantMessageIndex sent.messages turn
          (responseSegmentIdFromEvent event) with
      | none => exact .mk _ _ (aside.push (aside.unused.drafts _ _)) (.same (by simp))
      | some index =>
        obtain ⟨message, there, own, -⟩ := findAssistantMessageIndex_some found
        have inside := aside.get there (aside.other there (not_user_of_turn own))
        simp only [Option.map_some, Option.bind_some, there, inside]
        exact .mk _ _ (aside.write ⟨message, there, own⟩ fun _ => rfl) (.same (by simp))

end

end OpenJax.Web
