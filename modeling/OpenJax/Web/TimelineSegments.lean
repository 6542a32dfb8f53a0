import OpenJax.Web.ReasoningSegments
import OpenJax.Web.TimelineRuns

set_option autoImplicit false

namespace OpenJax.Web

open Shared

/-- The deltas name their segments, as the gateway's do; no event is of the old kind. -/
structure DeltasNamed (event : StreamEvent) : Prop where
  current : event.type ≠ .assistantMessage
  response : event.type = .responseTextDelta → (responseSegmentIdFromEvent event).isSome
  reasoning : event.type = .reasoningDelta → (reasoningSegmentIdFromEvent event).isSome

instance (event : StreamEvent) : Decidable (DeltasNamed event) :=
  decidable_of_iff (event.type ≠ .assistantMessage ∧
      (event.type = .responseTextDelta → (responseSegmentIdFromEvent event).isSome) ∧
      (event.type = .reasoningDelta → (reasoningSegmentIdFromEvent event).isSome))
    ⟨fun all => ⟨all.1, all.2.1, all.2.2⟩,
      fun event => ⟨event.current, event.response, event.reasoning⟩⟩

variable (host : Host)

/-- A text starts with a delta of its segment, or with a completion that has a content. -/
def opensText (turnId segment : String) (event : StreamEvent) : Bool :=
  isDeltaOf turnId segment event ||
    isCompletionOf turnId segment event && completedText host event ≠ ""

def opensBlock (turnId segment : String) (event : StreamEvent) : Bool :=
  isReasoningOf turnId segment event && deltaText host event ≠ ""

def ChatMessage.textStarts (turnId segment : String) (message : ChatMessage) : List (Option Nat) :=
  if isOfTurn turnId message && message.responseSegmentId = some segment then
    [message.textStartEventSeq]
  else []

def ReasoningBlock.startOf (segment : String) (block : ReasoningBlock) : List (Option Nat) :=
  if block.reasoningSegmentId = some segment then [block.startEventSeq] else []

def ChatMessage.blockStarts (turnId segment : String) (message : ChatMessage) : List (Option Nat) :=
  if isOfTurn turnId message then
    (message.reasoningBlocks.getD []).flatMap (ReasoningBlock.startOf segment)
  else []

def ChatMessage.blocksOf (turnId segment : String) (message : ChatMessage) : List ReasoningBlock :=
  if isOfTurn turnId message then
    (message.reasoningBlocks.getD []).filter fun block => block.reasoningSegmentId = some segment
  else []

def openedBy (opens : StreamEvent → Bool) (opened : Option Nat) (event : StreamEvent) :
    Option Nat :=
  opened.or (if opens event then some event.eventSeq else none)

section

variable {host} {messages : List ChatMessage} {turnId segment turn : String}
  {event : StreamEvent} {opened : Option Nat} {index : Nat} {message : ChatMessage}
  {change : ChatMessage → ChatMessage}

theorem textStarts_view (turnId segment : String) :
    TextView (ChatMessage.textStarts turnId segment) where
  others message other := by
    simp [ChatMessage.textStarts, isOfTurn, other]
  closes _ _ _ := rfl
  drafts _ := rfl

theorem textStart_known
    (known : messages.flatMap (ChatMessage.textStarts turnId segment) = (opened.map some).toList)
    (there : messages[index]? = some message) (own : isOfTurn turnId message)
    (place : message.responseSegmentId = some segment) :
    ∃ number, opened = some number ∧ message.textStartEventSeq = some number := by
  have seen : message.textStartEventSeq ∈
      messages.flatMap (ChatMessage.textStarts turnId segment) := by
    apply List.mem_flatMap.mpr
    refine ⟨message, List.mem_of_getElem? there, ?_⟩
    simp [ChatMessage.textStarts, own, place]
  rw [known] at seen
  cases opened with
  | none => simp at seen
  | some number => exact ⟨number, rfl, by simpa using seen⟩

theorem textStarts_modify
    (known : messages.flatMap (ChatMessage.textStarts turnId segment) = (opened.map some).toList)
    (there : messages[index]? = some message)
    (keeps : ∀ turn, isOfTurn turn (change message) = isOfTurn turn message)
    (place : (change message).responseSegmentId = message.responseSegmentId)
    (start : message.textStartEventSeq.isSome →
      (change message).textStartEventSeq = message.textStartEventSeq) :
    (messages.modify index change).flatMap (ChatMessage.textStarts turnId segment) =
      (opened.map some).toList := by
  rw [← known]
  apply flatMap_modify_found there
  rw [ChatMessage.textStarts, ChatMessage.textStarts, keeps, place]
  split
  next both =>
    simp only [Bool.and_eq_true, decide_eq_true_eq] at both
    obtain ⟨number, -, started⟩ := textStart_known known there both.1 both.2
    rw [start (by rw [started]; rfl)]
  · rfl

theorem textStarts_absent
    (known : messages.flatMap (ChatMessage.textStarts turnId segment) = (opened.map some).toList)
    (absent : ∀ message ∈ messages,
      (isOfTurn turnId message && message.responseSegmentId = some segment) = false) :
    opened = none := by
  have nothing : messages.flatMap (ChatMessage.textStarts turnId segment) = [] := by
    apply List.flatMap_eq_nil_iff.mpr
    intro message member
    rw [ChatMessage.textStarts, absent message member]
    rfl
  rw [known] at nothing
  cases opened with
  | none => rfl
  | some number => cases nothing

theorem openedBy_closed {opens : StreamEvent → Bool} (closed : opens event = false)
    (opened : Option Nat) : openedBy opens opened event = opened := by
  simp [openedBy, closed]

theorem openedBy_again {opens : StreamEvent → Bool} {number : Nat} :
    openedBy opens (some number) event = some number := by
  simp [openedBy]

theorem textStarts_push {place : Option String}
    (known : messages.flatMap (ChatMessage.textStarts turnId segment) = (opened.map some).toList)
    (own : message.turnId = some turn ∧ isAssistantText message)
    (named : message.responseSegmentId = place)
    (start : message.textStartEventSeq = some event.eventSeq)
    (absent : ∀ segment, place = some segment → ∀ message ∈ messages,
      (isOfTurn turn message && message.responseSegmentId = some segment) = false)
    (opens : opensText host turnId segment event ↔ turn = turnId ∧ place = some segment) :
    (messages ++ [message]).flatMap (ChatMessage.textStarts turnId segment) =
      ((openedBy (opensText host turnId segment) opened event).map some).toList := by
  rw [List.flatMap_append, List.flatMap_singleton, known, ChatMessage.textStarts, isOfTurn, own.1,
    own.2, named, start]
  by_cases key : turn = turnId ∧ place = some segment
  · obtain ⟨rfl, same⟩ := key
    obtain rfl := textStarts_absent known (absent segment same)
    simp [openedBy, opens.mpr ⟨rfl, same⟩, same]
  · rw [openedBy_closed (by simpa using fun holds => key (opens.mp holds))]
    have other : (decide (some turn = some turnId) && true && decide (place = some segment)) =
        false := by
      simpa using key
    rw [other]
    simp

theorem textStarts_mergeAssistantDraft {place delta timestamp : String} {canonical : Bool}
    (known : messages.flatMap (ChatMessage.textStarts turnId segment) = (opened.map some).toList)
    (named : responseSegmentIdFromEvent event = some place)
    (opens : opensText host turnId segment event ↔ turn = turnId ∧ some place = some segment) :
    (mergeAssistantDraft messages turn delta timestamp canonical event).flatMap
        (ChatMessage.textStarts turnId segment) =
      ((openedBy (opensText host turnId segment) opened event).map some).toList := by
  unfold mergeAssistantDraft
  rw [named]
  simp only
  split
  next found =>
    obtain ⟨message, there, own, same⟩ := findAssistantDraftIndex_some found
    have going : openedBy (opensText host turnId segment) opened event = opened := by
      by_cases key : turn = turnId ∧ some place = some segment
      · obtain ⟨rfl, placeSame⟩ := key
        obtain ⟨number, rfl, -⟩ := textStart_known known there own (same.trans placeSame)
        exact openedBy_again
      · exact openedBy_closed (by simpa using fun holds => key (opens.mp holds)) opened
    rw [going]
    apply textStarts_modify known there
    · intro turn
      split <;> rfl
    · split
      · rfl
      · exact same.symm
    · intro started
      obtain ⟨number, start⟩ := Option.isSome_iff_exists.mp started
      split
      · rfl
      · simp [start]
  next absent =>
    apply textStarts_push known ⟨rfl, rfl⟩ rfl rfl ?_ opens
    rintro _ ⟨⟩
    exact findAssistantDraftIndex_none absent

theorem textStarts_seal {content timestamp : String}
    (known : messages.flatMap (ChatMessage.textStarts turnId segment) = (opened.map some).toList)
    (there : messages[index]? = some message)
    (place : ∀ segment, responseSegmentIdFromEvent event = some segment →
      message.responseSegmentId = some segment) :
    (messages.modify index fun message =>
        message.seal content timestamp (responseSegmentIdFromEvent event) event.eventSeq).flatMap
        (ChatMessage.textStarts turnId segment) = (opened.map some).toList := by
  apply textStarts_modify known there (fun _ => rfl)
  · cases named : responseSegmentIdFromEvent event with
    | none => rfl
    | some segment => exact (place segment named).symm
  · intro started
    obtain ⟨number, start⟩ := Option.isSome_iff_exists.mp started
    simp [ChatMessage.seal, ChatMessage.endText, start]

theorem textStarts_sealAssistantMessage {content timestamp : String}
    (known : messages.flatMap (ChatMessage.textStarts turnId segment) = (opened.map some).toList)
    (opens : opensText host turnId segment event ↔
      (turn = turnId ∧ responseSegmentIdFromEvent event = some segment) ∧ content ≠ "") :
    (sealAssistantMessage messages turn content timestamp event).flatMap
        (ChatMessage.textStarts turnId segment) =
      ((openedBy (opensText host turnId segment) opened event).map some).toList := by
  -- Where a text is found, it is the event's own if the event names a segment.
  have going {index : Nat} {message : ChatMessage} (there : messages[index]? = some message)
      (own : isOfTurn turn message)
      (place : ∀ segment, responseSegmentIdFromEvent event = some segment →
        message.responseSegmentId = some segment) :
      openedBy (opensText host turnId segment) opened event = opened := by
    by_cases key : turn = turnId ∧ responseSegmentIdFromEvent event = some segment
    · obtain ⟨rfl, named⟩ := key
      obtain ⟨number, rfl, -⟩ := textStart_known known there own (place segment named)
      exact openedBy_again
    · exact openedBy_closed (by simpa using fun holds => key (opens.mp holds).1) opened
  unfold sealAssistantMessage
  simp only
  split
  next index found =>
    obtain ⟨message, there, own⟩ := findAssistantDraftIndex_own found
    have place : ∀ segment, responseSegmentIdFromEvent event = some segment →
        message.responseSegmentId = some segment := by
      intro segment named
      rw [named] at found
      obtain ⟨other, inside, -, same⟩ := findAssistantDraftIndex_some found
      cases there.symm.trans inside
      exact same
    rw [going there own place]
    exact textStarts_seal known there place
  next absent =>
    split
    next index found =>
      obtain ⟨message, there, holds⟩ := findIdx?_item found
      simp only [Bool.and_eq_true] at holds
      have place : ∀ segment, responseSegmentIdFromEvent event = some segment →
          message.responseSegmentId = some segment := by
        intro segment named
        simpa [inSegment, named] using holds.2
      rw [going there holds.1 place]
      exact textStarts_seal known there place
    · by_cases nothing : content = ""
      · rw [if_pos nothing, openedBy_closed (by simpa using fun holds => (opens.mp holds).2 nothing)]
        exact known
      · rw [if_neg nothing]
        apply textStarts_push known ⟨rfl, rfl⟩ rfl rfl ?_ (by simp [opens, nothing])
        intro segment (named : responseSegmentIdFromEvent event = some segment)
        rw [named] at absent
        exact findAssistantDraftIndex_none absent

theorem textStarts_appendReasoningDelta {delta timestamp : String} {eventSeq : Nat}
    {reasoning : Option String} :
    (appendReasoningDelta messages turn delta timestamp eventSeq reasoning).flatMap
        (ChatMessage.textStarts turnId segment) =
      messages.flatMap (ChatMessage.textStarts turnId segment) := by
  unfold appendReasoningDelta
  split
  · rfl
  · simp only
    split
    · apply pushed_unseen
      simp [ChatMessage.textStarts]
    · exact flatMap_modify_same fun _ _ => rfl

theorem textStarts_interruptTurn :
    (interruptTurn messages turn event).flatMap (ChatMessage.textStarts turnId segment) =
      messages.flatMap (ChatMessage.textStarts turnId segment) := by
  apply flatMap_map_same
  intro message
  split <;> rfl

theorem textStarts_applyTextEvent (named : DeltasNamed event)
    (known : messages.flatMap (ChatMessage.textStarts turnId segment) = (opened.map some).toList) :
    (applyTextEvent host messages event).flatMap (ChatMessage.textStarts turnId segment) =
      ((openedBy (opensText host turnId segment) opened event).map some).toList := by
  -- Only a delta and a completion can open a text.
  have other (delta : event.type ≠ .responseTextDelta) (completed : event.type ≠ .responseCompleted) :
      openedBy (opensText host turnId segment) opened event = opened := by
    apply openedBy_closed
    simp [opensText, isDeltaOf, isCompletionOf, delta, completed]
  unfold applyTextEvent
  cases own : truthy event.turnId with
  | none =>
    rw [openedBy_closed (by simp [opensText, isDeltaOf, isCompletionOf, inResponse, own])]
    exact known
  | some turn =>
    cases type : event.type with
    | responseTextDelta =>
      obtain ⟨place, placed⟩ := Option.isSome_iff_exists.mp (named.response type)
      apply textStarts_mergeAssistantDraft known placed
      simp [opensText, isDeltaOf, isCompletionOf, type, inResponse, own, placed]
    | responseCompleted =>
      simp only
      rw [← completedText]
      apply textStarts_sealAssistantMessage known
      simp [opensText, isDeltaOf, isCompletionOf, type, inResponse, own]
    | assistantMessage => exact absurd type named.current
    | reasoningDelta =>
      rw [other (by simp [type]) (by simp [type])]
      exact textStarts_appendReasoningDelta.trans known
    | turnInterrupted =>
      rw [other (by simp [type]) (by simp [type])]
      exact textStarts_interruptTurn.trans known
    | _ =>
      rw [other (by simp [type]) (by simp [type])]
      exact known

theorem close_startOf (block : ReasoningBlock) (eventSeq : Nat) (timestamp : String) :
    (block.close eventSeq timestamp).startOf segment = block.startOf segment := by
  unfold ReasoningBlock.close
  split <;> rfl

theorem blockStarts_view (turnId segment : String) :
    TextView (ChatMessage.blockStarts turnId segment) where
  others message other := by
    simp [ChatMessage.blockStarts, isOfTurn, other]
  closes message eventSeq timestamp := by
    unfold ChatMessage.blockStarts
    cases blocks : message.reasoningBlocks with
    | none => rfl
    | some blocks =>
      simp only [Option.map_some, Option.getD_some]
      rw [flatMap_map_same fun block => close_startOf block eventSeq timestamp]
      rfl
  drafts _ := rfl

theorem blockStarts_nil_iff (message : ChatMessage) :
    message.blockStarts turnId segment = [] ↔ message.reasoningTexts turnId segment = [] := by
  unfold ChatMessage.blockStarts ChatMessage.reasoningTexts blockTexts
  split
  · simp only [List.flatMap_eq_nil_iff, ReasoningBlock.startOf, ReasoningBlock.textOf]
    simp
  · simp

theorem allBlockStarts_nil_iff :
    messages.flatMap (ChatMessage.blockStarts turnId segment) = [] ↔
      messages.flatMap (ChatMessage.reasoningTexts turnId segment) = [] := by
  simp only [List.flatMap_eq_nil_iff, blockStarts_nil_iff]

variable {blocks : List ReasoningBlock} {place delta timestamp : String} {eventSeq : Nat}
  {reasoning : Option String}

theorem startOf_append (named : truthy reasoning = some place) :
    (appendReasoningBlock blocks turn delta timestamp eventSeq reasoning).flatMap
        (ReasoningBlock.startOf segment) =
      if place = segment ∧ blocks.flatMap (ReasoningBlock.startOf segment) = [] then [some eventSeq]
      else blocks.flatMap (ReasoningBlock.startOf segment) := by
  obtain rfl := truthy_some named
  unfold appendReasoningBlock
  rw [named]
  simp only
  split
  next index found =>
    obtain ⟨block, there, holds⟩ := findIdx?_item found
    have own := of_decide_eq_true holds
    have kept : (blocks.modify index fun block => block.append delta eventSeq).flatMap
        (ReasoningBlock.startOf segment) = blocks.flatMap (ReasoningBlock.startOf segment) :=
      flatMap_modify_same fun _ _ => rfl
    rw [kept, if_neg]
    rintro ⟨rfl, nothing⟩
    have unseen := List.flatMap_eq_nil_iff.mp nothing block (List.mem_of_getElem? there)
    rw [ReasoningBlock.startOf, if_pos own] at unseen
    cases unseen
  next missing =>
    rw [List.flatMap_append, List.flatMap_singleton,
      flatMap_map_same fun block => close_startOf block eventSeq timestamp]
    by_cases same : place = segment
    · subst same
      have nothing : blocks.flatMap (ReasoningBlock.startOf place) = [] := by
        apply List.flatMap_eq_nil_iff.mpr
        intro block member
        have other := of_decide_eq_false (List.findIdx?_eq_none_iff.mp missing block member)
        rw [ReasoningBlock.startOf, if_neg other]
      simp [nothing, ReasoningBlock.startOf, openedBlock]
    · simp [same, ReasoningBlock.startOf, openedBlock]

theorem blockStarts_reason (named : truthy reasoning = some place) (own : isOfTurn turn message) :
    (message.reason turn delta timestamp eventSeq reasoning).blockStarts turnId segment =
      if (turn = turnId ∧ place = segment) ∧ message.blockStarts turnId segment = [] then
        [some eventSeq]
      else message.blockStarts turnId segment := by
  have kept : isOfTurn turnId (message.reason turn delta timestamp eventSeq reasoning) =
      isOfTurn turnId message := rfl
  unfold ChatMessage.blockStarts
  rw [kept]
  by_cases same : isOfTurn turnId message = true
  · have turnSame : turn = turnId := by
      simp only [isOfTurn, Bool.and_eq_true, decide_eq_true_eq] at own same
      exact Option.some.inj (own.1.symm.trans same.1)
    rw [if_pos same, if_pos same]
    simp only [turnSame, true_and]
    exact startOf_append named
  · rw [if_neg same, if_neg same, if_neg]
    rintro ⟨⟨rfl, -⟩, -⟩
    exact same own

theorem blockStarts_reasoningMessage (named : truthy reasoning = some place) :
    (reasoningMessage turn delta timestamp eventSeq reasoning).blockStarts turnId segment =
      if turn = turnId ∧ place = segment then [some eventSeq] else [] := by
  obtain rfl := truthy_some named
  by_cases turnSame : turn = turnId <;> by_cases same : place = segment <;>
    simp [ChatMessage.blockStarts, reasoningMessage, isOfTurn, isAssistantText, openedBlock,
      ReasoningBlock.startOf, turnSame, same]

theorem blockStarts_appendReasoningDelta
    (known : messages.flatMap (ChatMessage.blockStarts turnId segment) = (opened.map some).toList)
    (named : truthy reasoning = some place) :
    (appendReasoningDelta messages turn delta timestamp eventSeq reasoning).flatMap
        (ChatMessage.blockStarts turnId segment) =
      ((opened.or (if (turn = turnId ∧ place = segment) ∧ delta ≠ "" then some eventSeq
        else none)).map some).toList := by
  by_cases nothing : delta = ""
  · rw [appendReasoningDelta, if_pos nothing, if_neg (fun both => both.2 nothing), Option.or_none]
    exact known
  · rw [appendReasoningDelta_target nothing]
    cases found : reasoningTarget messages turn reasoning with
    | none =>
      rw [List.flatMap_append, List.flatMap_singleton, known, blockStarts_reasoningMessage named]
      by_cases key : turn = turnId ∧ place = segment
      · obtain ⟨rfl, rfl⟩ := key
        simp only [reasoningTarget, named, Option.or_eq_none_iff] at found
        have before := allBlockStarts_nil_iff.mpr (reasoningTexts_absent found.1)
        rw [known] at before
        cases opened with
        | none => simp [nothing]
        | some number => cases before
      · simp [key]
    | some index =>
      obtain ⟨message, there, own⟩ := reasoningTarget_own found
      by_cases first : (turn = turnId ∧ place = segment) ∧ message.blockStarts turnId segment = []
      · obtain ⟨⟨rfl, rfl⟩, unseen⟩ := first
        have before : messages.flatMap (ChatMessage.blockStarts turn place) = [] := by
          simp only [reasoningTarget, named] at found
          rcases reasoningTexts_target found there with seen | nowhere
          · exact absurd ((blockStarts_nil_iff message).mp unseen) seen
          · exact allBlockStarts_nil_iff.mpr nowhere
        rw [flatMap_modify_first there before, blockStarts_reason named own,
          if_pos ⟨⟨rfl, rfl⟩, unseen⟩]
        rw [known] at before
        cases opened with
        | none => simp [nothing]
        | some number => cases before
      · have kept : (messages.modify index fun message =>
            message.reason turn delta timestamp eventSeq reasoning).flatMap
              (ChatMessage.blockStarts turnId segment) =
            messages.flatMap (ChatMessage.blockStarts turnId segment) := by
          apply flatMap_modify_found there
          rw [blockStarts_reason named own, if_neg first]
        rw [kept, known]
        cases opened with
        | some number => rfl
        | none =>
          -- The block of the segment would be seen.
          have unseen := List.flatMap_eq_nil_iff.mp known message (List.mem_of_getElem? there)
          have other : ¬(turn = turnId ∧ place = segment) := fun key => first ⟨key, unseen⟩
          simp [other]

theorem blockStarts_mergeAssistantDraft {canonical : Bool} :
    (mergeAssistantDraft messages turn delta timestamp canonical event).flatMap
        (ChatMessage.blockStarts turnId segment) =
      messages.flatMap (ChatMessage.blockStarts turnId segment) := by
  unfold mergeAssistantDraft
  simp only
  split
  · apply flatMap_modify_same
    intro message _
    split <;> rfl
  · apply pushed_unseen
    simp [ChatMessage.blockStarts]

theorem blockStarts_sealAssistantMessage {content : String} :
    (sealAssistantMessage messages turn content timestamp event).flatMap
        (ChatMessage.blockStarts turnId segment) =
      messages.flatMap (ChatMessage.blockStarts turnId segment) := by
  unfold sealAssistantMessage
  simp only
  split
  · exact flatMap_modify_same fun _ _ => rfl
  · split
    · exact flatMap_modify_same fun _ _ => rfl
    · split
      · rfl
      · apply pushed_unseen
        simp [ChatMessage.blockStarts]

theorem blockStarts_interruptTurn :
    (interruptTurn messages turn event).flatMap (ChatMessage.blockStarts turnId segment) =
      messages.flatMap (ChatMessage.blockStarts turnId segment) := by
  apply flatMap_map_same
  intro message
  split <;> rfl

theorem blockStarts_applyTextEvent (named : DeltasNamed event)
    (known : messages.flatMap (ChatMessage.blockStarts turnId segment) = (opened.map some).toList) :
    (applyTextEvent host messages event).flatMap (ChatMessage.blockStarts turnId segment) =
      ((openedBy (opensBlock host turnId segment) opened event).map some).toList := by
  have other (reasoning : event.type ≠ .reasoningDelta) :
      openedBy (opensBlock host turnId segment) opened event = opened := by
    apply openedBy_closed
    simp [opensBlock, isReasoningOf, reasoning]
  unfold applyTextEvent
  cases own : truthy event.turnId with
  | none =>
    rw [openedBy_closed (by simp [opensBlock, isReasoningOf, own])]
    exact known
  | some turn =>
    cases type : event.type with
    | reasoningDelta =>
      obtain ⟨place, placed⟩ := Option.isSome_iff_exists.mp (named.reasoning type)
      simp only
      rw [blockStarts_appendReasoningDelta known placed, openedBy, ← deltaText]
      simp [opensBlock, isReasoningOf, type, own, placed]
    | assistantMessage => exact absurd type named.current
    | responseTextDelta =>
      rw [other (by simp [type])]
      exact blockStarts_mergeAssistantDraft.trans known
    | responseCompleted =>
      rw [other (by simp [type])]
      exact blockStarts_sealAssistantMessage.trans known
    | turnInterrupted =>
      rw [other (by simp [type])]
      exact blockStarts_interruptTurn.trans known
    | _ =>
      rw [other (by simp [type])]
      exact known

variable {log : List StreamEvent} {opens : StreamEvent → Bool}

theorem openedBy_log (opens : StreamEvent → Bool) (log : List StreamEvent) :
    log.foldl (openedBy opens) none = (log.find? opens).map StreamEvent.eventSeq := by
  induction log using List.reverseRecOn with
  | nil => rfl
  | append_singleton log event ih =>
    rw [List.foldl_append, ih, List.find?_append, List.foldl_cons, List.foldl_nil, openedBy]
    cases log.find? opens with
    | some first => rfl
    | none => cases here : opens event <;> simp [here]

theorem startsView_messagesOf {view : ChatMessage → List (Option Nat)} (textView : TextView view)
    (step : ∀ {messages : List ChatMessage} {event : StreamEvent} {opened : Option Nat},
      DeltasNamed event → messages.flatMap view = (opened.map some).toList →
      (applyTextEvent host messages event).flatMap view =
        ((openedBy opens opened event).map some).toList)
    (named : ∀ event ∈ log, DeltasNamed event) :
    (messagesOf host log).flatMap view =
      (((log.find? opens).map StreamEvent.eventSeq).map some).toList := by
  rw [← openedBy_log]
  induction log using List.reverseRecOn with
  | nil => rfl
  | append_singleton log event ih =>
    have known := ih fun event member => named event (List.mem_append_left _ member)
    obtain ⟨before, same, applied⟩ := textView.applyMessages host (messagesOf host log) event
    rw [messagesOf_snoc, applied, List.foldl_append]
    exact step (named event (by simp)) (same.trans known)

theorem textStarts_messagesOf (named : ∀ event ∈ log, DeltasNamed event) :
    (messagesOf host log).flatMap (ChatMessage.textStarts turnId segment) =
      (((log.find? (opensText host turnId segment)).map StreamEvent.eventSeq).map some).toList :=
  startsView_messagesOf (textStarts_view turnId segment) textStarts_applyTextEvent named

theorem blockStarts_messagesOf (named : ∀ event ∈ log, DeltasNamed event) :
    (messagesOf host log).flatMap (ChatMessage.blockStarts turnId segment) =
      (((log.find? (opensBlock host turnId segment)).map StreamEvent.eventSeq).map some).toList :=
  startsView_messagesOf (blockStarts_view turnId segment) blockStarts_applyTextEvent named

theorem length_opened (opens : StreamEvent → Bool) (log : List StreamEvent) :
    (((log.find? opens).map StreamEvent.eventSeq).map some).toList.length =
      if log.any opens then 1 else 0 := by
  have found : log.any opens = (log.find? opens).isSome := by
    rw [Bool.eq_iff_iff, List.find?_isSome, List.any_eq_true]
  rw [found]
  cases log.find? opens <;> rfl

theorem texts_of_segment (named : ∀ event ∈ log, DeltasNamed event) :
    ((messagesOf host log).filter fun message =>
        isOfTurn turnId message && message.responseSegmentId = some segment).length =
      if log.any (opensText host turnId segment) then 1 else 0 := by
  rw [← length_opened, ← textStarts_messagesOf named]
  generalize messagesOf host log = messages
  induction messages with
  | nil => rfl
  | cons message rest ih =>
    rw [List.flatMap_cons, List.length_append, List.filter_cons, ← ih, ChatMessage.textStarts]
    split
    · rw [List.length_cons, List.length_singleton, Nat.add_comm]
    · rw [List.length_nil, Nat.zero_add]

theorem startOf_length (segment : String) (blocks : List ReasoningBlock) :
    (blocks.flatMap (ReasoningBlock.startOf segment)).length =
      (blocks.filter fun block => block.reasoningSegmentId = some segment).length := by
  induction blocks with
  | nil => rfl
  | cons block rest ih =>
    rw [List.flatMap_cons, List.length_append, List.filter_cons, ih, ReasoningBlock.startOf]
    by_cases own : block.reasoningSegmentId = some segment
    · simp [own, Nat.add_comm]
    · simp [own]

theorem blocks_of_segment (named : ∀ event ∈ log, DeltasNamed event) :
    ((messagesOf host log).flatMap (ChatMessage.blocksOf turnId segment)).length =
      if log.any (opensBlock host turnId segment) then 1 else 0 := by
  rw [← length_opened, ← blockStarts_messagesOf named]
  generalize messagesOf host log = messages
  induction messages with
  | nil => rfl
  | cons message rest ih =>
    rw [List.flatMap_cons, List.flatMap_cons, List.length_append, List.length_append, ih,
      ChatMessage.blockStarts, ChatMessage.blocksOf]
    split
    · rw [startOf_length]
    · rfl

end

end OpenJax.Web
