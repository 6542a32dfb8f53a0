import OpenJax.Web.Delivery
import OpenJax.Web.SentTexts

set_option autoImplicit false

namespace OpenJax.Web

open Shared

structure ViewBeside (id : MessageId) (content : String) (prior : TurnPhase)
    (sent unsent : LiveView) : Prop where
  session : SessionBeside id content prior sent.session unsent.session
  number : unsent.lastEventSeqRef = sent.lastEventSeqRef
  store : unsent.store = sent.store

section

variable {host : Host} {sessionId : String} {id : MessageId} {content : String}
  {prior : TurnPhase} {sent unsent : LiveView} {event : StreamEvent} {step : PendingStep}

theorem sentIds_head {messages : List ChatMessage} {index : Nat} {message : ChatMessage}
    (found : messages.findIdx? (isSentText content none) = some index)
    (there : messages[index]? = some message) :
    (messages.flatMap (ChatMessage.sentIds content)).head? = some message.id := by
  induction messages generalizing index with
  | nil => cases found
  | cons first rest ih =>
    rw [List.findIdx?_cons] at found
    rw [List.flatMap_cons, ChatMessage.sentIds]
    by_cases holds : isSentText content none first = true
    · rw [if_pos holds] at found
      cases found
      cases there
      rw [if_pos holds]
      rfl
    · rw [if_neg holds] at found
      obtain ⟨place, later, rfl⟩ := Option.map_eq_some_iff.mp found
      rw [if_neg holds, List.nil_append]
      exact ih later there

theorem sentIds_without (id : MessageId) (messages : List ChatMessage) :
    (messages.filter fun message => message.id ≠ id).flatMap (ChatMessage.sentIds content) =
      (messages.flatMap (ChatMessage.sentIds content)).filter fun other => other ≠ id := by
  induction messages with
  | nil => rfl
  | cons message rest ih =>
    rw [List.flatMap_cons, List.filter_append, ← ih, ChatMessage.sentIds, List.filter_cons]
    by_cases own : message.id = id <;> by_cases sent : isSentText content none message = true <;>
      simp [own, sent, ChatMessage.sentIds]

theorem sentIds_mem {messages : List ChatMessage} :
    messages.flatMap (ChatMessage.sentIds content) ≠ [] ↔
      ∃ message ∈ messages, isSentText content none message := by
  rw [ne_eq, List.flatMap_eq_nil_iff]
  simp [ChatMessage.sentIds]

variable {session other : ChatSession}

theorem spares_of_earlier (beside : SessionBeside id content prior session other)
    (earlier : isEcho host content event = true →
      (session.messages.flatMap (ChatMessage.sentIds content)).head? ≠ some id)
    (user : event.type = .userMessage) : Spares host id session.messages event := by
  cases beside with
  | mk messages phase aside phases =>
    rintro index message found there rfl
    obtain ⟨item, inside, holds⟩ := findIdx?_item found
    cases there.symm.trans inside
    have own := aside.own message (List.mem_of_getElem? there) rfl
    simp only [isSentText, Bool.and_eq_true, decide_eq_true_eq] at own holds
    have text : event.payload.text host "content" "" = content := holds.1.2.symm.trans own.1.2
    have turn : event.turnId = none := holds.2.symm.trans own.2
    rw [text, turn] at found
    exact earlier (by simp [isEcho, user, turn, text]) (sentIds_head found there)

theorem ViewBeside.accept (beside : ViewBeside id content prior sent unsent)
    (sessionId : String) (event : StreamEvent) :
    (sent.accept sessionId event = none ∧ unsent.accept sessionId event = none) ∨
      ∃ next other, sent.accept sessionId event = some next ∧
        unsent.accept sessionId event = some other ∧
        ViewBeside id content prior next other ∧ next.session = sent.session := by
  obtain ⟨session, number, store⟩ := beside
  unfold LiveView.accept
  simp only [number, store]
  split
  · exact .inl ⟨rfl, rfl⟩
  · exact .inr ⟨_, _, rfl, rfl, ⟨session, rfl, rfl⟩, rfl⟩

theorem SessionBeside.kept (beside : SessionBeside id content prior session other) :
    other.messages = session.messages.filter fun message => message.id ≠ id := by
  cases beside with
  | mk messages phase aside phases => exact aside.kept

theorem SessionBeside.phases (beside : SessionBeside id content prior session other) :
    PhasesBeside prior session.turnPhase other.turnPhase := by
  cases beside with
  | mk messages phase aside phases => exact phases

theorem SessionBeside.duplicate (beside : SessionBeside id content prior session other)
    (event : StreamEvent) : isDuplicate other event = isDuplicate session event := by
  cases beside with
  | mk messages phase aside phases => rfl

theorem ViewBeside.onResponseTextDelta (beside : ViewBeside id content prior sent unsent)
    (host : Host) (sessionId : String) (event : StreamEvent) :
    ViewBeside id content prior (onResponseTextDelta host sessionId sent event)
      (onResponseTextDelta host sessionId unsent event) := by
  refine ⟨beside.session.touch _ _ _, beside.number, ?_⟩
  rw [Web.onResponseTextDelta, beside.store, Web.onResponseTextDelta]

theorem ViewBeside.onResponseStarted (beside : ViewBeside id content prior sent unsent)
    (sessionId : String) (event : StreamEvent) :
    ViewBeside id content prior (onResponseStarted sessionId sent event)
      (onResponseStarted sessionId unsent event) := by
  obtain ⟨named, shown, session⟩ := beside.session.started event
  unfold Web.onResponseStarted
  simp only [named, shown, beside.store]
  refine ⟨?_, beside.number, rfl⟩
  simp only
  split
  · exact session.connected .active
  · exact beside.session

theorem ViewBeside.onResponseCompleted (beside : ViewBeside id content prior sent unsent)
    (host : Host) (sessionId : String) (event : StreamEvent) :
    ViewBeside id content prior (onResponseCompleted host sessionId sent event)
      (onResponseCompleted host sessionId unsent event) := by
  unfold Web.onResponseCompleted
  simp only [beside.store]
  refine ⟨?_, beside.number, rfl⟩
  simp only
  split
  · exact ((beside.session.closeReasoning _ _ _).completed event _).connected .active
  · exact beside.session

theorem ViewBeside.onOtherEvent (beside : ViewBeside id content prior sent unsent)
    (idle : prior ≠ .streaming) (host : Host) (sessionId : String)
    (spares : isDuplicate sent.session event = false → event.type = .userMessage →
      Spares host id sent.session.messages event) :
    ViewBeside id content prior (onOtherEvent host sessionId sent event)
      (onOtherEvent host sessionId unsent event) := by
  unfold Web.onOtherEvent
  simp only [beside.store, beside.session.duplicate]
  refine ⟨?_, beside.number, rfl⟩
  simp only
  split
  · exact beside.session
  · exact (beside.session.applySingle idle spares).connected .active

theorem ViewBeside.pending (beside : ViewBeside id content prior sent unsent)
    (idle : prior ≠ .streaming)
    (spared : echoes host sessionId content unsent step = true →
      (sentIds content sent).head? ≠ some id) :
    ViewBeside id content prior (pendingStep host sessionId sent step)
      (pendingStep host sessionId unsent step) := by
  cases step with
  | replayed event =>
    refine ⟨beside.session.applySingle idle ?_, beside.number, beside.store⟩
    intro fresh user
    apply spares_of_earlier beside.session ?_ user
    intro echo
    apply spared
    simp [echoes, echo, beside.session.duplicate, fresh]
  | live step =>
    cases step with
    | frame key =>
      refine ⟨beside.session, beside.number, ?_⟩
      exact congrArg (fun store => store.commit key) beside.store
    | effect =>
      have number : unsent.session.lastEventSeq = sent.session.lastEventSeq := by
        cases unsent with
        | mk session number store =>
          cases beside.session with
          | mk messages phase aside phases => rfl
      refine ⟨beside.session, ?_, beside.store⟩
      simp only [pendingStep, liveStep, number, beside.number]
    | event event =>
      simp only [pendingStep, liveStep, applyIncomingEvent]
      rcases beside.accept sessionId event with ⟨gone, same⟩ | ⟨next, other, taken, same, both, kept⟩
      · rw [gone, same]
        exact beside
      · rw [taken, same]
        have spares : isDuplicate next.session event = false → event.type = .userMessage →
            Spares host id next.session.messages event := by
          intro fresh user
          apply spares_of_earlier both.session ?_ user
          intro echo
          rw [kept]
          rw [kept] at fresh
          apply spared
          simp [echoes, echo, same, beside.session.duplicate, fresh]
        cases event.type with
        | responseTextDelta => exact both.onResponseTextDelta host sessionId event
        | responseStarted | responseResumed => exact both.onResponseStarted sessionId event
        | responseCompleted => exact both.onResponseCompleted host sessionId event
        | _ => exact both.onOtherEvent idle host sessionId spares

variable {steps : List PendingStep} {view : LiveView}

def Unechoed (host : Host) (sessionId content : String) (view : LiveView)
    (steps : List PendingStep) : Prop :=
  Meets (fun view step => some (pendingStep host sessionId view step))
    (fun view step => echoes host sessionId content view step = false) view steps

instance : Decidable (Unechoed host sessionId content view steps) :=
  inferInstanceAs (Decidable (Meets _ _ _ _))

theorem unechoed_cons :
    Unechoed host sessionId content view (step :: steps) ↔
      echoes host sessionId content view step = false ∧
        Unechoed host sessionId content (pendingStep host sessionId view step) steps := by
  constructor
  · exact fun both => ⟨both.1, both.2 _ rfl⟩
  · rintro ⟨silent, later⟩
    refine ⟨silent, ?_⟩
    rintro next ⟨⟩
    exact later

theorem sentIds_run (filled : sentIds content view ≠ []) :
    sentIds content (runPending host sessionId view steps) = sentIds content view := by
  induction steps generalizing view with
  | nil => rfl
  | cons step steps ih =>
    have kept : sentIds content (pendingStep host sessionId view step) = sentIds content view := by
      rw [sentIds_step, nextIds_filled filled]
    rw [runPending, List.foldl_cons]
    exact (ih (kept.trans_ne filled)).trans kept

theorem unechoed_of_nothing (nothing : sentIds content (runPending host sessionId view steps) = []) :
    Unechoed host sessionId content view steps := by
  induction steps generalizing view with
  | nil => trivial
  | cons step steps ih =>
    rw [runPending, List.foldl_cons] at nothing
    rw [unechoed_cons]
    refine ⟨?_, ih nothing⟩
    by_cases filled : sentIds content (pendingStep host sessionId view step) = []
    · rw [sentIds_step] at filled
      cases echo : echoes host sessionId content view step with
      | false => rfl
      | true =>
        rw [echo] at filled
        cases ids : sentIds content view <;> simp [nextIds, ids] at filled
    · have kept : sentIds content (runPending host sessionId
          (pendingStep host sessionId view step) steps) = _ := sentIds_run filled
      exact absurd (kept.symm.trans nothing) filled

theorem ViewBeside.run (beside : ViewBeside id content prior sent unsent)
    (idle : prior ≠ .streaming)
    (spared : (∃ first rest, sentIds content sent = first :: rest ∧ first ≠ id) ∨
      Unechoed host sessionId content unsent steps) :
    ViewBeside id content prior (runPending host sessionId sent steps)
      (runPending host sessionId unsent steps) := by
  induction steps generalizing sent unsent with
  | nil => exact beside
  | cons step steps ih =>
    rw [runPending, List.foldl_cons, runPending, List.foldl_cons]
    rcases spared with ⟨first, rest, ids, other⟩ | quiet
    · apply ih
      · apply beside.pending idle
        intro _
        simpa [ids] using other
      · left
        refine ⟨first, rest, ?_, other⟩
        rw [sentIds_step, nextIds_filled (by simp [ids]), ids]
    · rw [unechoed_cons] at quiet
      apply ih
      · apply beside.pending idle
        intro echo
        rw [quiet.1] at echo
        cases echo
      · exact .inr quiet.2

end

/-- A text as `crypto.randomUUID` draws it. -/
def isUuid (text : String) : Bool := text.toList.all "0123456789abcdef-".toList.contains

def Sends (content : String) (gateAccepted : Bool) (current : TitledSession) : Prop :=
  trimText content ≠ "" ∧ gateAccepted = true ∧
    isBusyTurnPhase current.view.session.turnPhase = false

structure SameSession (first second : TitledSession) : Prop where
  messages : first.view.session.messages = second.view.session.messages
  title : first.title = second.title
  isPlaceholderTitle : first.isPlaceholderTitle = second.isPlaceholderTitle
  turnPhase : first.view.session.turnPhase = second.view.session.turnPhase

section

variable {uuid content timestamp : String} {gateAccepted : Bool} {current : TitledSession}
  {id : MessageId} {submission : Submission}

theorem unused_of_uuid (drawn : isUuid uuid) : Unused (.named uuid) where
  generated := MessageId.noConfusion
  drafts turnId segment := by
    intro same
    -- The ids of drafts start with a word that has a letter beyond f.
    have letter : 's' ∈ uuid.toList := by
      unfold buildAssistantDraftId at same
      split at same
      · obtain rfl := MessageId.named.inj same
        rw [String.toList_append]
        exact List.mem_append_left _ (by decide)
      · obtain rfl := MessageId.named.inj same
        rw [String.toList_append, String.toList_append, String.toList_append]
        exact List.mem_append_left _ (List.mem_append_left _ (List.mem_append_left _ (by decide)))
    have digit := List.all_eq_true.mp drawn 's' letter
    revert digit
    decide

theorem beginSubmission_none (keeps : ¬Sends content gateAccepted current) :
    beginSubmission content id gateAccepted current = none := by
  unfold beginSubmission
  simp only
  split_ifs with blank closed busy
  · rfl
  · rfl
  · rfl
  · exact absurd ⟨blank, by simpa using closed, by simpa using busy⟩ keeps

structure Submitted (content : String) (id : MessageId) (current : TitledSession)
    (submission : Submission) : Prop where
  message : submission.message = trimText content
  optimisticMessageId : submission.optimisticMessageId = id
  priorTurnPhase : submission.priorTurnPhase = current.view.session.turnPhase
  priorTitle : submission.priorTitle = current.title
  priorIsPlaceholderTitle : submission.priorIsPlaceholderTitle = current.isPlaceholderTitle
  priorMessageCount : submission.priorMessageCount = current.view.session.messages.length
  optimisticTitle : submission.optimisticTitle =
    if current.view.session.messages.length = 0 then some (summarizeTitle (trimText content))
    else none

theorem beginSubmission_some (id : MessageId) (sends : Sends content gateAccepted current) :
    ∃ submission, beginSubmission content id gateAccepted current = some submission ∧
      Submitted content id current submission := by
  obtain ⟨filled, opened, idle⟩ := sends
  unfold beginSubmission
  simp only
  rw [if_neg filled, opened, idle]
  exact ⟨_, rfl, ⟨rfl, rfl, rfl, rfl, rfl, rfl, rfl⟩⟩

section

variable {host : Host} {sessionId : String} {steps : List PendingStep}

theorem Submitted.beside (submitted : Submitted content (.named uuid) current submission)
    (drawn : isUuid uuid)
    (fresh : ∀ message ∈ current.view.session.messages, message.id ≠ .named uuid)
    (idle : isBusyTurnPhase current.view.session.turnPhase = false) :
    ViewBeside (.named uuid) (trimText content) current.view.session.turnPhase
      (submission.optimisticUpdate timestamp current).view current.view := by
  have own : (submission.optimisticMessage timestamp current.view.session).id = .named uuid :=
    submitted.optimisticMessageId
  simp only [isBusyTurnPhase, Bool.or_eq_false_iff, decide_eq_false_iff_not] at idle
  refine ⟨.mk current.view.session.messages current.view.session.turnPhase ⟨?_, ?_, ?_⟩
    ⟨idle.1, .inr ⟨rfl, rfl⟩⟩, rfl, rfl⟩
  · have all : current.view.session.messages.filter (fun message => message.id ≠ .named uuid) =
        current.view.session.messages := by
      rw [List.filter_eq_self]
      intro message member
      simpa using fresh message member
    simp only [Submission.optimisticUpdate]
    rw [List.filter_append, all, List.filter_cons_of_neg (by simp [own]), List.filter_nil,
      List.append_nil]
  · intro message member same
    rcases List.mem_append.mp member with before | shown
    · exact absurd same (fresh message before)
    · obtain rfl := List.mem_singleton.mp shown
      simp [isSentText, Submission.optimisticMessage, submitted.message]
  · exact unused_of_uuid drawn

theorem Submitted.sentIds (submitted : Submitted content (.named uuid) current submission)
    (timestamp : String) :
    sentIds (trimText content) (submission.optimisticUpdate timestamp current).view =
      Web.sentIds (trimText content) current.view ++ [.named uuid] := by
  unfold Web.sentIds Submission.optimisticUpdate
  simp only
  rw [List.flatMap_append, List.flatMap_singleton]
  simp [ChatMessage.sentIds, isSentText, Submission.optimisticMessage, submitted.message,
    submitted.optimisticMessageId]

theorem Submitted.first_other (submitted : Submitted content (.named uuid) current submission)
    (fresh : ∀ message ∈ current.view.session.messages, message.id ≠ .named uuid)
    (earlier : ∃ message ∈ current.view.session.messages,
      isSentText (trimText content) none message) (timestamp : String) :
    ∃ first rest, Web.sentIds (trimText content)
        (submission.optimisticUpdate timestamp current).view = first :: rest ∧
      first ≠ .named uuid := by
  rw [submitted.sentIds]
  cases ids : Web.sentIds (trimText content) current.view with
  | nil => exact absurd ids (sentIds_mem.mpr earlier)
  | cons first rest =>
    refine ⟨first, rest ++ [.named uuid], rfl, ?_⟩
    have member : first ∈ Web.sentIds (trimText content) current.view := by simp [ids]
    obtain ⟨message, inside, shown⟩ := List.mem_flatMap.mp member
    unfold ChatMessage.sentIds at shown
    split at shown
    · obtain rfl := List.mem_singleton.mp shown
      exact fresh message inside
    · cases shown

theorem Submitted.title_restored (submitted : Submitted content id current submission)
    (filled : trimText content ≠ "") (host : Host) (sessionId timestamp : String)
    (steps : List PendingStep) :
    (submission.rollback
        ((submission.optimisticUpdate timestamp current).wait host sessionId steps)).title =
        current.title ∧
      (submission.rollback
        ((submission.optimisticUpdate timestamp current).wait host sessionId
          steps)).isPlaceholderTitle = current.isPlaceholderTitle := by
  have titled := summarizeTitle_filled filled
  by_cases first : current.view.session.messages.length = 0
  · have owns : submission.ownsTitle
        ((submission.optimisticUpdate timestamp current).wait host sessionId steps) = true := by
      simp [Submission.ownsTitle, Submission.optimisticUpdate, TitledSession.wait,
        submitted.priorMessageCount, submitted.optimisticTitle, first, truthy, titled]
    simp [Submission.rollback, owns, submitted.priorTitle, submitted.priorIsPlaceholderTitle]
  · have leaves : submission.ownsTitle
        ((submission.optimisticUpdate timestamp current).wait host sessionId steps) = false := by
      simp [Submission.ownsTitle, submitted.priorMessageCount, first]
    simp only [Submission.rollback, leaves]
    simp [Submission.optimisticUpdate, TitledSession.wait, first]

theorem Submitted.same_of_beside (submitted : Submitted content id current submission)
    (filled : trimText content ≠ "")
    (beside : ViewBeside id (trimText content) current.view.session.turnPhase
      (runPending host sessionId (submission.optimisticUpdate timestamp current).view steps)
      (runPending host sessionId current.view steps)) :
    SameSession
      (submission.rollback
        ((submission.optimisticUpdate timestamp current).wait host sessionId steps))
      (current.wait host sessionId steps) := by
  obtain ⟨title, placeholder⟩ := submitted.title_restored filled host sessionId timestamp steps
  refine ⟨?_, title, placeholder, ?_⟩
  · simp only [Submission.rollback, TitledSession.wait, submitted.optimisticMessageId]
    exact beside.session.kept.symm
  · obtain ⟨calm, phases⟩ := beside.session.phases
    simp only [Submission.rollback, TitledSession.wait, submitted.priorTurnPhase]
    rcases phases with same | ⟨pending, prior⟩
    · rw [same, if_neg calm]
    · rw [pending, if_pos rfl, prior]

theorem Submitted.unechoed_of_same
    (submitted : Submitted content (.named uuid) current submission)
    (nothing : Web.sentIds (trimText content) current.view = [])
    (same : SameSession
      (submission.rollback
        ((submission.optimisticUpdate timestamp current).wait host sessionId steps))
      (current.wait host sessionId steps)) :
    Unechoed host sessionId (trimText content) current.view steps := by
  apply unechoed_of_nothing
  have shown := submitted.sentIds timestamp
  rw [nothing, List.nil_append] at shown
  -- A record goes to the text that is shown, and so does every later one.
  have kept : Web.sentIds (trimText content)
      (runPending host sessionId (submission.optimisticUpdate timestamp current).view steps) =
        [.named uuid] :=
    (sentIds_run (by simp [shown])).trans shown
  have messages := same.messages
  simp only [Submission.rollback, TitledSession.wait, submitted.optimisticMessageId] at messages
  rw [Web.sentIds, ← messages, sentIds_without]
  rw [Web.sentIds] at kept
  rw [kept]
  simp

end

end

variable (host : Host) (sessionId : String)

theorem refused_send_undone_iff {current : TitledSession} {content uuid timestamp : String}
    {gateAccepted : Bool} {steps : List PendingStep} (drawn : isUuid uuid)
    (fresh : ∀ message ∈ current.view.session.messages, message.id ≠ .named uuid) :
    SameSession (sendMessageAction host sessionId content uuid timestamp gateAccepted steps current)
        (current.wait host sessionId steps) ↔
      (Sends content gateAccepted current →
        (∃ message ∈ current.view.session.messages, isSentText (trimText content) none message) ∨
          Unechoed host sessionId (trimText content) current.view steps) := by
  by_cases sends : Sends content gateAccepted current
  next =>
    obtain ⟨submission, begun, submitted⟩ := beginSubmission_some (.named uuid) sends
    simp only [sendMessageAction, begun, sends, true_implies]
    constructor
    next =>
      intro same
      by_cases nothing : sentIds (trimText content) current.view = []
      next => exact .inr (submitted.unechoed_of_same nothing same)
      next =>
        left
        exact sentIds_mem.mp nothing
    next =>
      intro spared
      have busy := sends.2.2
      apply submitted.same_of_beside sends.1
      apply (submitted.beside drawn fresh sends.2.2).run
      next =>
        intro streaming
        simp [isBusyTurnPhase, streaming] at busy
      next =>
        rcases spared with earlier | quiet
        next => exact .inl (submitted.first_other fresh earlier timestamp)
        next => exact .inr quiet
  next =>
    rw [sendMessageAction, beginSubmission_none sends]
    exact ⟨fun _ sent => absurd sent sends, fun _ => ⟨rfl, rfl, rfl, rfl⟩⟩

def PLACEHOLDER_SESSION_TITLE : String := "新聊天"

def newChat : TitledSession := ⟨LiveView.opened {}, PLACEHOLDER_SESSION_TITLE, true⟩

def drawnUuid : String := "9b2e4c1a-0d57-4f6e-8a31-c2d4e6f80b95"

def othersTurn (content : String) : List PendingStep :=
  [.live (.event { eventSeq := 1, type := .userMessage, payload := [("content", .str content)] }),
    .live (.event { turnId := some "turn_1", eventSeq := 2, turnSeq := some 1
                    type := .turnStarted })]

theorem refused_send_undone_iff_of_other :
    SameSession
        (sendMessageAction plainHost "sess_1" " hi " drawnUuid "" true (othersTurn "no") newChat)
        (newChat.wait plainHost "sess_1" (othersTurn "no")) ↔
      (Sends " hi " true newChat →
        (∃ message ∈ newChat.view.session.messages, isSentText (trimText " hi ") none message) ∨
          Unechoed plainHost "sess_1" (trimText " hi ") newChat.view (othersTurn "no")) :=
  refused_send_undone_iff plainHost "sess_1" (by decide) (by decide)

/-- Both clients say the same: the record goes to the text that is only shown, and is lost with
it. -/
theorem echoed_text_lost :
    Sends " hi " true newChat ∧ isUuid drawnUuid ∧
      (sendMessageAction plainHost "sess_1" " hi " drawnUuid "" true (othersTurn "hi")
        newChat).view.session.messages.map ChatMessage.content = [] ∧
      (newChat.wait plainHost "sess_1" (othersTurn "hi")).view.session.messages.map
        ChatMessage.content = ["hi"] := by
  refine ⟨⟨by decide, rfl, rfl⟩, by decide, by decide +kernel, by decide +kernel⟩

end OpenJax.Web
