import OpenJax.Web.LiveTexts
import OpenJax.Web.LiveView
import OpenJax.Web.Delivery

set_option autoImplicit false

namespace OpenJax.Web

open Shared

variable (host : Host) (sessionId : String)

def eventKey (turnId : String) (event : StreamEvent) : TextKey :=
  (some turnId, responseSegmentIdFromEvent event)

def seedOf (event : StreamEvent) : Option String :=
  match event.type with
  | .reasoningDelta =>
      if event.payload.text host "content_delta" "" = "" then none else some ""
  | .assistantMessage =>
      if event.payload.text host "content" "" = "" then none
      else some (event.payload.text host "content" "")
  | _ => none

def seeded (turnId : String) (event : StreamEvent) (texts : List AssistantText) :
    List AssistantText :=
  match seedOf host event with
  | none => texts
  | some content => seedText turnId content texts

def replayTexts (event : StreamEvent) (texts : List AssistantText) : List AssistantText :=
  match truthy event.turnId with
  | none => texts
  | some turnId =>
      match event.type with
      | .responseTextDelta =>
          upsertText (eventKey turnId event) (· ++ event.payload.text host "content_delta" "") texts
      | .responseCompleted =>
          upsertText (eventKey turnId event) (fun _ => event.payload.text host "content" "") texts
      | _ => seeded host turnId event texts

def liveTexts (event : StreamEvent) (texts : List AssistantText) : List AssistantText :=
  match truthy event.turnId with
  | none => texts
  | some turnId =>
      match event.type with
      | .responseTextDelta => texts
      | .responseStarted | .responseResumed => upsertText (eventKey turnId event) id texts
      | .responseCompleted =>
          upsertText (eventKey turnId event) (fun _ => event.payload.text host "content" "") texts
      | _ => seeded host turnId event texts

/-- The event names its segment, as the gateway's do; the completion of a turn that has shown no
text may go without. -/
def Placed (texts : List AssistantText) (turnId : String) (event : StreamEvent) : Prop :=
  match event.type with
  | .responseStarted | .responseResumed => (responseSegmentIdFromEvent event).isSome
  | .responseTextDelta =>
      (responseSegmentIdFromEvent event).isSome ∧ isCanonicalDeltaEvent event
  | .responseCompleted =>
      event.payload.text host "content" "" ≠ "" ∧
        ((responseSegmentIdFromEvent event).isSome ∨ ¬HasTurn turnId texts)
  | _ => True

/-- A response starts in a segment of its own while no other one waits for its first text, and
until that text comes no other message is added. -/
def Timely (texts : List AssistantText) (opened : Option TextKey) (turnId : String)
    (event : StreamEvent) : Prop :=
  let key := eventKey turnId event
  match event.type with
  | .responseStarted | .responseResumed => opened = none ∧ key ∉ texts.map AssistantText.key
  | .responseTextDelta => opened = some key ∨ key ∈ texts.map AssistantText.key
  | .responseCompleted =>
      opened = none ∨
        key.2.isSome ∧ (opened = some key ∨ key ∈ texts.map AssistantText.key)
  | _ => seedOf host event = none ∨ opened = none ∨ HasTurn turnId texts

def InOrder (texts : List AssistantText) (opened : Option TextKey) (event : StreamEvent) : Prop :=
  ∀ turnId ∈ truthy event.turnId,
    Placed host texts turnId event ∧ Timely host texts opened turnId event

def openedAfter (opened : Option TextKey) (event : StreamEvent) : Option TextKey :=
  match truthy event.turnId with
  | none => opened
  | some turnId =>
      match event.type with
      | .responseStarted | .responseResumed => some (eventKey turnId event)
      | .responseTextDelta | .responseCompleted =>
          if opened = some (eventKey turnId event) then none else opened
      | _ => opened

def openedIn (log : List StreamEvent) : Option TextKey := log.foldl openedAfter none

def unfinishedAfter (key : TextKey) (text : String) (event : StreamEvent) : String :=
  match truthy event.turnId with
  | none => text
  | some turnId =>
      if key = eventKey turnId event then
        match event.type with
        | .responseTextDelta => text ++ event.payload.text host "content_delta" ""
        | .responseCompleted => ""
        | _ => text
      else text

def unfinishedIn (log : List StreamEvent) (key : TextKey) : String :=
  log.foldl (unfinishedAfter host key) ""

section

variable {host} {texts : List AssistantText} {messages : List ChatMessage} {event : StreamEvent}

theorem seeded_reasoning (turnId : String) (type : event.type = .reasoningDelta)
    (messages : List ChatMessage) :
    textsOf (appendReasoningDelta messages turnId (event.payload.text host "content_delta" "")
      event.timestamp event.eventSeq (event.payload.string "reasoning_segment_id")) =
      seeded host turnId event (textsOf messages) := by
  simp only [seeded, seedOf, type]
  by_cases nothing : event.payload.text host "content_delta" "" = ""
  · simp [nothing, appendReasoningDelta]
  · rw [textsOf_appendReasoningDelta nothing]
    simp [nothing]

theorem seeded_fallback (turnId : String) (type : event.type = .assistantMessage)
    (messages : List ChatMessage) :
    textsOf (finalizeAssistantMessageFallback messages turnId (event.payload.text host "content" "")
      event.timestamp event) = seeded host turnId event (textsOf messages) := by
  simp only [seeded, seedOf, type]
  by_cases nothing : event.payload.text host "content" "" = ""
  · rw [nothing, textsOf_finalize_empty]
    simp
  · rw [textsOf_finalizeAssistantMessageFallback nothing]
    simp [nothing]

theorem textsOf_applyTextEvent (unique : Unique (textsOf messages))
    (placed : ∀ turnId ∈ truthy event.turnId, Placed host (textsOf messages) turnId event) :
    textsOf (applyTextEvent host messages event) = replayTexts host event (textsOf messages) := by
  unfold applyTextEvent replayTexts
  cases turn : truthy event.turnId with
  | none => rfl
  | some turnId =>
    have own := placed turnId turn
    cases type : event.type with
    | reasoningDelta => exact seeded_reasoning turnId type messages
    | assistantMessage => exact seeded_fallback turnId type messages
    | responseTextDelta =>
      simp only [Placed, type] at own
      obtain ⟨segment, place⟩ := Option.isSome_iff_exists.mp own.1
      simp only [eventKey, place, own.2]
      exact textsOf_mergeAssistantDraft unique place
    | responseCompleted =>
      simp only [Placed, type] at own
      cases place : responseSegmentIdFromEvent event with
      | some segment =>
        simp only [eventKey, place]
        exact textsOf_sealAssistantMessage unique own.1 place
      | none =>
        simp only [eventKey, place]
        exact textsOf_sealAssistantMessage_alone (own.2.resolve_left (by simp [place])) own.1 place
    | turnInterrupted =>
      simp only [seeded, seedOf, type]
      exact textsOf_interruptTurn messages turnId event
    | _ => simp only [seeded, seedOf, type]

theorem textsOf_applyMessages (unique : Unique (textsOf messages))
    (placed : ∀ turnId ∈ truthy event.turnId, Placed host (textsOf messages) turnId event) :
    textsOf (applyMessages host messages event) = replayTexts host event (textsOf messages) := by
  -- Only the branches of the texts themselves change them.
  have user : textsOf (if event.type = .userMessage then applyUserMessage host messages event
      else messages) = textsOf messages := by
    split
    · exact textsOf_applyUserMessage host messages event
    · rfl
  have closed (messages : List ChatMessage) :
      textsOf (closeReasoningOn messages event) = textsOf messages := by
    unfold closeReasoningOn
    split
    · rfl
    · split
      · exact textsOf_closeOpenReasoningBlock ..
      · rfl
  have steps (messages : List ChatMessage) :
      textsOf (if isToolStepEvent event then upsertToolStepMessage host messages event
        else messages) = textsOf messages := by
    split
    · exact textsOf_upsertToolStepMessage host messages event
    · rfl
  have final (messages : List ChatMessage) :
      textsOf (if endsDrafts event then markTurnDraftFinal messages event.turnId else messages) =
        textsOf messages := by
    split
    · exact textsOf_markTurnDraftFinal messages event.turnId
    · rfl
  have failed (messages : List ChatMessage) :
      textsOf (if isErrorEvent event then messages ++ [errorMessage host event] else messages) =
        textsOf messages := by
    split
    · exact textsOf_push_other rfl
    · rfl
  simp only [applyMessages]
  rw [failed, final, steps, textsOf_applyTextEvent (by rwa [closed, user]) (by rwa [closed, user]),
    closed, user]

variable {session : ChatSession}

theorem assistantTexts_applySingle (unique : Unique (assistantTexts session))
    (later : session.lastEventSeq < event.eventSeq)
    (placed : ∀ turnId ∈ truthy event.turnId, Placed host (assistantTexts session) turnId event) :
    assistantTexts (applySingleSessionEvent host session event) =
      replayTexts host event (assistantTexts session) := by
  have accepted : ¬isDuplicate session event = true := by
    simp only [isDuplicate, Bool.and_eq_true, decide_eq_true_eq, not_and]
    omega
  rw [applySingleSessionEvent, if_neg accepted]
  exact textsOf_applyMessages unique placed

variable (session : ChatSession)

theorem assistantTexts_closeOpenReasoning (turnId : Option String) (eventSeq : Nat)
    (timestamp : String) :
    assistantTexts (closeOpenReasoningBlockInSession session turnId eventSeq timestamp) =
      assistantTexts session := by
  unfold closeOpenReasoningBlockInSession
  split
  · rfl
  · exact textsOf_closeOpenReasoningBlock ..

variable {view : LiveView} (sessionId : String)

theorem accept_new (later : view.lastEventSeqRef < event.eventSeq) :
    ∃ store, view.accept sessionId event =
      some { view with lastEventSeqRef := event.eventSeq, store := store } := by
  have passes : ¬(!isSequenceResetEvent event && event.eventSeq ≤ view.lastEventSeqRef) = true := by
    simp only [Bool.and_eq_true, decide_eq_true_eq, not_and]
    omega
  rw [LiveView.accept, if_neg passes]
  dsimp only
  have seen : max (if isSequenceResetEvent event then 0 else view.lastEventSeqRef) event.eventSeq =
      event.eventSeq := by
    split <;> omega
  rw [seen]
  exact ⟨_, rfl⟩

theorem onResponseStarted_texts (unique : Unique (assistantTexts view.session))
    (type : event.type = .responseStarted ∨ event.type = .responseResumed)
    (placed : ∀ turnId ∈ truthy event.turnId,
      Placed host (assistantTexts view.session) turnId event) :
    assistantTexts (onResponseStarted sessionId view event).session =
      liveTexts host event (assistantTexts view.session) := by
  unfold onResponseStarted liveTexts
  cases turn : truthy event.turnId with
  | none => rfl
  | some turnId =>
    have own : (responseSegmentIdFromEvent event).isSome := by
      have own := placed turnId turn
      rcases type with type | type <;> simpa only [Placed, type] using own
    obtain ⟨segment, place⟩ := Option.isSome_iff_exists.mp own
    have started := assistantTexts_applyResponseStarted unique turn place
    rcases type with type | type <;> simp only [type, eventKey, place] <;> exact started

theorem onResponseCompleted_texts (unique : Unique (assistantTexts view.session))
    (type : event.type = .responseCompleted) (placed : ∀ turnId ∈ truthy event.turnId,
      Placed host (assistantTexts view.session) turnId event) :
    assistantTexts (onResponseCompleted host sessionId view event).session =
      liveTexts host event (assistantTexts view.session) := by
  unfold onResponseCompleted liveTexts
  cases turn : truthy event.turnId with
  | none => rfl
  | some turnId =>
    have own := placed turnId turn
    simp only [Placed, type] at own
    have same := assistantTexts_closeOpenReasoning view.session event.turnId event.eventSeq
      event.timestamp
    simp only [type, eventKey, Option.isSome_some, if_true, ne_eq, own.1, not_false_iff]
    cases place : responseSegmentIdFromEvent event with
    | some segment =>
      have completed := assistantTexts_applyResponseCompleted
        (event.payload.text host "content" "") (by rwa [same]) turn type place
      rw [same] at completed
      exact completed
    | none =>
      have alone := own.2.resolve_left (by simp [place])
      have completed := assistantTexts_applyResponseCompleted_alone
        (event.payload.text host "content" "") (by rwa [same]) turn place
      rw [same] at completed
      exact completed

theorem onOtherEvent_texts (unique : Unique (assistantTexts view.session))
    (later : view.session.lastEventSeq < event.eventSeq) (placed : ∀ turnId ∈ truthy event.turnId,
      Placed host (assistantTexts view.session) turnId event) :
    assistantTexts (onOtherEvent host sessionId view event).session =
      replayTexts host event (assistantTexts view.session) := by
  have accepted : ¬isDuplicate view.session event = true := by
    simp only [isDuplicate, Bool.and_eq_true, decide_eq_true_eq, not_and]
    omega
  rw [onOtherEvent, if_neg accepted]
  exact assistantTexts_applySingle unique later placed

theorem applyIncoming_texts (unique : Unique (assistantTexts view.session))
    (later : view.lastEventSeqRef < event.eventSeq)
    (behind : view.session.lastEventSeq ≤ view.lastEventSeqRef)
    (placed : ∀ turnId ∈ truthy event.turnId,
      Placed host (assistantTexts view.session) turnId event) :
    assistantTexts (applyIncomingEvent host sessionId view event).session =
      liveTexts host event (assistantTexts view.session) := by
  obtain ⟨store, accepted⟩ := accept_new sessionId later
  rw [applyIncomingEvent, accepted]
  dsimp only
  cases type : event.type with
  | responseTextDelta =>
    rw [onResponseTextDelta, assistantTexts_touch, liveTexts]
    cases truthy event.turnId <;> simp only [type]
  | responseStarted => exact onResponseStarted_texts sessionId unique (.inl type) placed
  | responseResumed => exact onResponseStarted_texts sessionId unique (.inr type) placed
  | responseCompleted => exact onResponseCompleted_texts sessionId unique type placed
  | _ =>
    have new : view.session.lastEventSeq < event.eventSeq := by omega
    refine (onOtherEvent_texts sessionId unique new placed).trans ?_
    rw [replayTexts, liveTexts]
    cases truthy event.turnId <;> simp only [type]

theorem lastEventSeq_applySingle (event : StreamEvent) :
    (applySingleSessionEvent host session event).lastEventSeq ≤
      max session.lastEventSeq event.eventSeq := by
  unfold applySingleSessionEvent
  split
  · omega
  · exact Nat.le_max_right ..

theorem lastEventSeq_touch (turnId : Option String) (eventSeq : Nat) (timestamp : String) :
    (touchAssistantTextSeqInSession session turnId eventSeq timestamp).lastEventSeq =
      session.lastEventSeq := by
  unfold touchAssistantTextSeqInSession
  split <;> rfl

theorem lastEventSeq_started (event : StreamEvent) :
    (applyResponseStartedSession session event).session.lastEventSeq ≤
      max session.lastEventSeq event.eventSeq := by
  unfold applyResponseStartedSession
  split
  · exact Nat.le_max_left ..
  · exact Nat.le_refl _

theorem lastEventSeq_completed (event : StreamEvent) (content : String) :
    (applyResponseCompletedSession
      (closeOpenReasoningBlockInSession session event.turnId event.eventSeq event.timestamp) event
        content).lastEventSeq ≤ max session.lastEventSeq event.eventSeq := by
  unfold applyResponseCompletedSession closeOpenReasoningBlockInSession
  cases truthy event.turnId with
  | none => exact Nat.le_max_left ..
  | some => exact Nat.le_refl _

theorem applyIncoming_positions (later : view.lastEventSeqRef < event.eventSeq)
    (behind : view.session.lastEventSeq ≤ view.lastEventSeqRef) :
    (applyIncomingEvent host sessionId view event).lastEventSeqRef = event.eventSeq ∧
      (applyIncomingEvent host sessionId view event).session.lastEventSeq ≤ event.eventSeq := by
  obtain ⟨store, accepted⟩ := accept_new sessionId later
  rw [applyIncomingEvent, accepted]
  dsimp only
  have kept : view.session.lastEventSeq ≤ event.eventSeq := by omega
  have within {position : Nat} (bound : position ≤ max view.session.lastEventSeq event.eventSeq) :
      position ≤ event.eventSeq := by omega
  split
  · refine ⟨rfl, ?_⟩
    rw [onResponseTextDelta, lastEventSeq_touch]
    exact kept
  · refine ⟨rfl, ?_⟩
    rw [onResponseStarted]
    split
    · exact within (lastEventSeq_started view.session event)
    · exact kept
  · refine ⟨rfl, ?_⟩
    rw [onResponseStarted]
    split
    · exact within (lastEventSeq_started view.session event)
    · exact kept
  · refine ⟨rfl, ?_⟩
    rw [onResponseCompleted]
    split
    · exact within (lastEventSeq_completed view.session event _)
    · exact kept
  · refine ⟨rfl, ?_⟩
    rw [onOtherEvent]
    split
    · exact kept
    · exact within (lastEventSeq_applySingle view.session event)

variable {live replayed : List AssistantText} {opened : Option TextKey}
  {unfinished : TextKey → String} {shown : List AssistantText}

theorem Agrees.unchanged (agrees : Agrees live replayed opened unfinished shown)
    {later : TextKey → String} (same : ∀ key, later key = unfinished key) :
    Agrees live replayed opened later shown := by
  obtain rfl : later = unfinished := funext same
  exact agrees

theorem Agrees.placed (agrees : Agrees live replayed opened unfinished shown)
    (inOrder : InOrder host replayed opened event) :
    ∀ turnId ∈ truthy event.turnId, Placed host live turnId event := by
  intro turnId turn
  obtain ⟨placed, timely⟩ := inOrder turnId turn
  unfold Placed at placed ⊢
  split
  next type => simpa only [type] using placed
  next type => simpa only [type] using placed
  next type => simpa only [type] using placed
  next type =>
    simp only [type] at placed
    simp only [Timely, type] at timely
    rcases timely with rfl | ⟨named, -⟩
    · have whole : live = shown := by simpa using agrees.live_shown
      rw [whole, ← hasTurn_extend turnId unfinished shown, ← agrees.replay_shown]
      exact placed
    · exact ⟨placed.1, .inl named⟩
  · trivial

theorem Agrees.receive (agrees : Agrees live replayed opened unfinished shown)
    (inOrder : InOrder host replayed opened event) :
    ∃ shown, Agrees (liveTexts host event live) (replayTexts host event replayed)
      (openedAfter opened event) (fun key => unfinishedAfter host key (unfinished key) event)
      shown := by
  unfold liveTexts replayTexts openedAfter unfinishedAfter
  cases turn : truthy event.turnId with
  | none => exact ⟨shown, agrees⟩
  | some turnId =>
    have timely := (inOrder turnId turn).2
    unfold Timely at timely
    have others {changed : TextKey → String} (other : TextKey)
        (different : other ≠ eventKey turnId event) :
        (if other = eventKey turnId event then changed other else unfinished other) =
          unfinished other := if_neg different
    cases type : event.type with
    | responseStarted =>
      simp only [type] at timely
      obtain ⟨rfl, absent⟩ := timely
      simp only [seeded, seedOf, type]
      exact ⟨shown, (agrees.start absent).unchanged fun key => ite_self _⟩
    | responseResumed =>
      simp only [type] at timely
      obtain ⟨rfl, absent⟩ := timely
      simp only [seeded, seedOf, type]
      exact ⟨shown, (agrees.start absent).unchanged fun key => ite_self _⟩
    | responseTextDelta =>
      simp only [type] at timely
      exact agrees.delta timely (if_pos rfl) others
    | responseCompleted =>
      simp only [type] at timely
      exact agrees.complete _ (timely.imp_right And.right) (if_pos rfl) others
    | _ =>
      simp only [type] at timely
      have same (key : TextKey) :
          (if key = eventKey turnId event then unfinished key else unfinished key) =
            unfinished key := ite_self _
      unfold seeded
      cases seed : seedOf host event with
      | none => exact ⟨shown, agrees.unchanged same⟩
      | some content =>
        have settled := timely.resolve_left (by simp [seed])
        obtain ⟨shown, next⟩ := agrees.seed content settled
        exact ⟨shown, next.unchanged same⟩

end

/-- A session that is folded from the events, and the response that waits for its first text. -/
structure Replayed where
  session : ChatSession
  opened : Option TextKey

def Replayed.next (replayed : Replayed) (event : StreamEvent) : Replayed :=
  ⟨applySingleSessionEvent host replayed.session event, openedAfter replayed.opened event⟩

def OrderedLog (replayed : Replayed) (log : List StreamEvent) : Prop :=
  Meets (fun replayed event => some (replayed.next host event))
    (fun replayed event => InOrder host (assistantTexts replayed.session) replayed.opened event)
    replayed log

structure Beside (view : LiveView) (replayed : Replayed) (unfinished : TextKey → String)
    (count : Nat) : Prop where
  seen : view.lastEventSeqRef = count
  behind : view.session.lastEventSeq ≤ count
  position : replayed.session.lastEventSeq = count
  agrees : ∃ shown, Agrees (assistantTexts view.session) (assistantTexts replayed.session)
    replayed.opened unfinished shown

section

variable {host} {view : LiveView} {replayed : Replayed} {unfinished : TextKey → String}
  {count : Nat} {event : StreamEvent}

theorem Beside.receive (beside : Beside view replayed unfinished count) (sessionId : String)
    (number : event.eventSeq = count + 1)
    (inOrder : InOrder host (assistantTexts replayed.session) replayed.opened event) :
    Beside (applyIncomingEvent host sessionId view event) (replayed.next host event)
      (fun key => unfinishedAfter host key (unfinished key) event) (count + 1) := by
  obtain ⟨shown, agrees⟩ := beside.agrees
  have later : view.lastEventSeqRef < event.eventSeq := by rw [beside.seen]; omega
  have behind : view.session.lastEventSeq ≤ view.lastEventSeqRef := beside.seen ▸ beside.behind
  have applied : replayed.session.lastEventSeq < event.eventSeq := by rw [beside.position]; omega
  have moved : (applyIncomingEvent host sessionId view event).lastEventSeqRef = event.eventSeq ∧ _ :=
    applyIncoming_positions sessionId later behind
  refine ⟨moved.1.trans number, number ▸ moved.2, ?_, ?_⟩
  · exact (applySingle_position host (.inl applied)).trans number
  · rw [applyIncoming_texts sessionId agrees.unique later behind (agrees.placed inOrder),
      Replayed.next, assistantTexts_applySingle agrees.unique_replayed applied fun turnId turn =>
        (inOrder turnId turn).1]
    exact agrees.receive inOrder

theorem Beside.run {steps : List LiveStep} (beside : Beside view replayed unfinished count)
    (sessionId : String)
    (numbered : (received steps).map StreamEvent.eventSeq =
      List.range' (count + 1) (received steps).length)
    (ordered : OrderedLog host replayed (received steps)) :
    Beside (runLive host sessionId view steps) ((received steps).foldl (Replayed.next host) replayed)
      (fun key => (received steps).foldl (unfinishedAfter host key) (unfinished key))
      (count + (received steps).length) := by
  induction steps generalizing view replayed unfinished count with
  | nil => exact beside
  | cons step rest ih =>
    cases step with
    | event event =>
      have split : received (.event event :: rest) = event :: received rest := rfl
      rw [split] at numbered ordered ⊢
      rw [List.map_cons, List.length_cons, List.range'_succ, List.cons.injEq] at numbered
      have next := beside.receive sessionId numbered.1 ordered.1
      have remaining := ih next numbered.2 (ordered.2 _ rfl)
      rw [List.length_cons, Nat.add_comm (received rest).length 1, ← Nat.add_assoc]
      exact remaining
    | frame key => exact @ih _ replayed unfinished count { beside with } numbered ordered
    | effect =>
      have quiet : max view.lastEventSeqRef view.session.lastEventSeq = count := by
        have seen := beside.seen
        have behind := beside.behind
        omega
      exact @ih _ replayed unfinished count { beside with seen := quiet } numbered ordered

end

theorem replay_session (replayed : Replayed) (log : List StreamEvent) :
    log.foldl (Replayed.next host) replayed =
      ⟨applySessionEvents host replayed.session log, log.foldl openedAfter replayed.opened⟩ := by
  induction log generalizing replayed with
  | nil => rfl
  | cons event rest ih =>
    rw [List.foldl_cons, ih]
    rfl

/-- The texts that the live view ends with are those of the replay exactly when every response that
has started got text and none got text after its last completion. -/
theorem live_view_agrees {start : ChatSession} {steps : List LiveStep} (blank : start.messages = [])
    (fresh : start.lastEventSeq = 0) (wellNumbered : SessionLog (received steps))
    (ordered : OrderedLog host ⟨start, none⟩ (received steps)) :
    assistantTexts (runLive host sessionId (.opened start) steps).session =
        assistantTexts (applySessionEvents host start (received steps)) ↔
      openedIn (received steps) = none ∧ ∀ key, unfinishedIn host (received steps) key = "" := by
  have empty : assistantTexts start = [] := by
    rw [assistantTexts, blank]
    rfl
  have initial : Beside (.opened start) ⟨start, none⟩ (fun _ => "") 0 := by
    refine ⟨fresh, fresh.le, fresh, [], ?_, ?_, ?_, ?_⟩
    next => exact empty
    next => exact empty
    next =>
      change Unique (assistantTexts start)
      rw [empty]
      exact List.nodup_nil
    next => simp
  obtain ⟨shown, agrees⟩ := (initial.run sessionId (by simpa using wellNumbered.numbered)
    ordered).agrees
  rw [replay_session] at agrees
  exact agrees.same_iff

def segmentPayload (segment : String) (fields : Payload) : Payload :=
  fields ++ [("stream_source", .str "model_live"), ("response_segment_id", .str segment)]

def lookupLog : List StreamEvent :=
  [{ eventSeq := 1, turnSeq := some 0, type := .userMessage, payload := [("content", .str "hi")] },
    greetingEvent 2 1 .turnStarted [],
    greetingEvent 3 2 .responseStarted (segmentPayload "resp_1" []),
    greetingEvent 4 3 .responseTextDelta
      (segmentPayload "resp_1" [("content_delta", .str "Let me look.")]),
    greetingEvent 5 4 .toolCallStarted
      [("tool_call_id", .str "call_1"), ("tool_name", .str "read_file")],
    greetingEvent 6 5 .toolCallCompleted
      [("tool_call_id", .str "call_1"), ("tool_name", .str "read_file"), ("ok", .bool true)],
    greetingEvent 7 6 .responseStarted (segmentPayload "resp_2" []),
    greetingEvent 8 7 .responseTextDelta (segmentPayload "resp_2" [("content_delta", .str "Done.")]),
    greetingEvent 9 8 .responseCompleted (segmentPayload "resp_2" [("content", .str "Done.")]),
    greetingEvent 10 9 .turnCompleted []]

instance (texts : List AssistantText) (turnId : String) (event : StreamEvent) :
    Decidable (Placed host texts turnId event) := by
  unfold Placed
  split <;> infer_instance

instance (texts : List AssistantText) (opened : Option TextKey) (turnId : String)
    (event : StreamEvent) : Decidable (Timely host texts opened turnId event) := by
  unfold Timely
  dsimp only
  split <;> infer_instance

instance (texts : List AssistantText) (opened : Option TextKey) (event : StreamEvent) :
    Decidable (InOrder host texts opened event) :=
  inferInstanceAs (Decidable (∀ _ ∈ _, _ ∧ _))

instance (replayed : Replayed) (log : List StreamEvent) :
    Decidable (OrderedLog host replayed log) :=
  inferInstanceAs (Decidable (Meets ..))

theorem live_view_agrees_lookup :
    assistantTexts (runLive plainHost "sess_1" (.opened {})
          (lookupLog.map .event ++ [.effect])).session =
        assistantTexts (applySessionEvents plainHost {} lookupLog) ↔
      openedIn lookupLog = none ∧ ∀ key, unfinishedIn plainHost lookupLog key = "" :=
  @live_view_agrees plainHost "sess_1" {} (lookupLog.map .event ++ [.effect]) rfl rfl
    (by decide +kernel) (by decide +kernel)

theorem text_before_tools_lost :
    SessionLog lookupLog ∧ OrderedLog plainHost ⟨{}, none⟩ lookupLog ∧
      lookupLog.getLast?.map StreamEvent.type = some .turnCompleted ∧
      assistantTexts (runLive plainHost "sess_1" (.opened {}) (lookupLog.map .event)).session =
        [⟨some "turn_1", some "resp_1", ""⟩, ⟨some "turn_1", some "resp_2", "Done."⟩] ∧
      assistantTexts (applySessionEvents plainHost {} lookupLog) =
        [⟨some "turn_1", some "resp_1", "Let me look."⟩,
          ⟨some "turn_1", some "resp_2", "Done."⟩] := by
  refine ⟨by decide +kernel, by decide +kernel, by decide +kernel, by decide +kernel,
    by decide +kernel⟩

end OpenJax.Web
