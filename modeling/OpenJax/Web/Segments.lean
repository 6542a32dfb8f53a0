import OpenJax.Web.Delivery
import OpenJax.Web.Replays

set_option autoImplicit false

namespace OpenJax.Web

open Shared

variable (host : Host)

def deltaText (event : StreamEvent) : String := event.payload.text host "content_delta" ""

def completedText (event : StreamEvent) : String := event.payload.text host "content" ""

def reasoningSegmentIdFromEvent (event : StreamEvent) : Option String :=
  truthy (event.payload.string "reasoning_segment_id")

def inResponse (turnId segment : String) (event : StreamEvent) : Bool :=
  truthy event.turnId = some turnId && responseSegmentIdFromEvent event = some segment

def isDeltaOf (turnId segment : String) (event : StreamEvent) : Bool :=
  event.type = .responseTextDelta && inResponse turnId segment event

def isCompletionOf (turnId segment : String) (event : StreamEvent) : Bool :=
  event.type = .responseCompleted && inResponse turnId segment event

def isReasoningOf (turnId segment : String) (event : StreamEvent) : Bool :=
  event.type = .reasoningDelta && truthy event.turnId = some turnId &&
    reasoningSegmentIdFromEvent event = some segment

def responseText (turnId segment : String) (log : List StreamEvent) : String :=
  let completions := (log.filter (isCompletionOf turnId segment)).map (completedText host)
  let deltas := (log.filter (isDeltaOf turnId segment)).map (deltaText host)
  ((completions.filter (· ≠ "")).getLast?).getD (String.join deltas)

def reasoningText (turnId segment : String) (log : List StreamEvent) : String :=
  String.join ((log.filter (isReasoningOf turnId segment)).map (deltaText host))

structure Segmented (event : StreamEvent) : Prop where
  current : event.type ≠ .assistantMessage
  delta : event.type = .responseTextDelta →
    isCanonicalDeltaEvent event ∧ (responseSegmentIdFromEvent event).isSome
  completed : event.type = .responseCompleted → (responseSegmentIdFromEvent event).isSome
  reasoning : event.type = .reasoningDelta → (reasoningSegmentIdFromEvent event).isSome

instance (event : StreamEvent) : Decidable (Segmented event) :=
  decidable_of_iff (event.type ≠ .assistantMessage ∧
      (event.type = .responseTextDelta →
        isCanonicalDeltaEvent event ∧ (responseSegmentIdFromEvent event).isSome) ∧
      (event.type = .responseCompleted → (responseSegmentIdFromEvent event).isSome) ∧
      (event.type = .reasoningDelta → (reasoningSegmentIdFromEvent event).isSome))
    ⟨fun all => ⟨all.1, all.2.1, all.2.2.1, all.2.2.2⟩,
      fun event => ⟨event.current, event.delta, event.completed, event.reasoning⟩⟩

def StaysCompleted (earlier later : StreamEvent) : Prop :=
  ∀ turnId ∈ truthy earlier.turnId, ∀ segment ∈ responseSegmentIdFromEvent earlier,
    isCompletionOf turnId segment earlier → ¬isDeltaOf turnId segment later

instance : DecidableRel StaysCompleted := fun earlier _ =>
  inferInstanceAs (Decidable (∀ _ ∈ truthy earlier.turnId, ∀ _ ∈ _, _ → _))

def ChatMessage.responseTexts (turnId segment : String) (message : ChatMessage) : List String :=
  if isOfTurn turnId message && message.responseSegmentId = some segment then [message.content]
  else []

def nextResponse (turnId segment : String) (shown : Option String) (event : StreamEvent) :
    Option String :=
  if isDeltaOf turnId segment event then some (shown.getD "" ++ deltaText host event)
  else if isCompletionOf turnId segment event ∧ completedText host event ≠ "" then
    some (completedText host event)
  else shown

section

variable {host} {messages : List ChatMessage} {turnId segment : String} {event : StreamEvent}
  {shown : Option String}

theorem responseTexts_view (turnId segment : String) :
    TextView (ChatMessage.responseTexts turnId segment) where
  others message other := by
    simp [ChatMessage.responseTexts, isOfTurn, other]
  closes _ _ _ := rfl
  drafts _ := rfl

variable {message : ChatMessage}

theorem responseTexts_own (own : isOfTurn turnId message)
    (place : message.responseSegmentId = some segment) :
    message.responseTexts turnId segment = [message.content] := by
  simp [ChatMessage.responseTexts, own, place]

theorem responseTexts_other (turn : String) {place : Option String} (own : isOfTurn turn message)
    (segmentSame : message.responseSegmentId = place)
    (apart : (turn, place) ≠ (turnId, some segment)) :
    message.responseTexts turnId segment = [] := by
  rw [ChatMessage.responseTexts, if_neg]
  intro both
  simp only [isOfTurn, Bool.and_eq_true, decide_eq_true_eq] at own both
  apply apart
  rw [Option.some.inj (own.1.symm.trans both.1.1), ← segmentSame, both.2]

theorem responseTexts_absent
    (absent : ∀ message ∈ messages,
      (isOfTurn turnId message && message.responseSegmentId = some segment) = false) :
    messages.flatMap (ChatMessage.responseTexts turnId segment) = [] := by
  apply List.flatMap_eq_nil_iff.mpr
  intro message member
  rw [ChatMessage.responseTexts, absent message member]
  rfl

theorem responseTexts_modify {index : Nat} {change : ChatMessage → ChatMessage}
    (known : messages.flatMap (ChatMessage.responseTexts turnId segment) = shown.toList)
    (there : messages[index]? = some message) (own : isOfTurn turnId message)
    (place : message.responseSegmentId = some segment) :
    shown = some message.content ∧
      (messages.modify index change).flatMap (ChatMessage.responseTexts turnId segment) =
        (change message).responseTexts turnId segment := by
  have seen := responseTexts_own own place
  cases shown with
  | none =>
    have nothing := List.flatMap_eq_nil_iff.mp known message (List.mem_of_getElem? there)
    rw [seen] at nothing
    cases nothing
  | some content =>
    obtain ⟨alone, changed⟩ := flatMap_modify_only change there (by simp [seen]) known
    rw [seen] at alone
    exact ⟨congrArg some (List.singleton_inj.mp alone.symm), changed⟩

theorem responseTexts_elsewhere {turn : String} {place : Option String} {index : Nat}
    {change : ChatMessage → ChatMessage} (there : messages[index]? = some message)
    (own : isOfTurn turn message) (before : message.responseSegmentId = place)
    (keeps : isOfTurn turn (change message) ∧ (change message).responseSegmentId = place)
    (apart : (turn, place) ≠ (turnId, some segment)) :
    (messages.modify index change).flatMap (ChatMessage.responseTexts turnId segment) =
      messages.flatMap (ChatMessage.responseTexts turnId segment) := by
  apply flatMap_modify_found there
  rw [responseTexts_other turn own before apart, responseTexts_other turn keeps.1 keeps.2 apart]

theorem responseTexts_mergeAssistantDraft {turn place delta timestamp : String}
    (known : messages.flatMap (ChatMessage.responseTexts turnId segment) = shown.toList)
    (named : responseSegmentIdFromEvent event = some place) :
    (mergeAssistantDraft messages turn delta timestamp true event).flatMap
        (ChatMessage.responseTexts turnId segment) =
      (if (turn, place) = (turnId, segment) then some (shown.getD "" ++ delta)
        else shown).toList := by
  unfold mergeAssistantDraft
  rw [named]
  simp only
  split
  next found =>
    obtain ⟨message, there, own, same⟩ := findAssistantDraftIndex_some found
    split
    next key =>
      obtain ⟨rfl, rfl⟩ := Prod.mk.inj key
      obtain ⟨rfl, changed⟩ := responseTexts_modify known there own same
      rw [changed]
      exact responseTexts_own own rfl
    next apart =>
      rw [← known]
      apply responseTexts_elsewhere there own same ⟨own, rfl⟩
      intro key
      apply apart
      rw [(Prod.mk.inj key).1, Option.some.inj (Prod.mk.inj key).2]
  next absent =>
    rw [List.flatMap_append, List.flatMap_singleton, known]
    split
    next key =>
      cases key
      have nothing := responseTexts_absent (findAssistantDraftIndex_none absent)
      rw [known, Option.toList_eq_nil_iff] at nothing
      rw [nothing, responseTexts_own (by simp [isOfTurn, isAssistantText]) rfl]
      simp
    next apart =>
      rw [responseTexts_other turn (by simp [isOfTurn, isAssistantText]) rfl, List.append_nil]
      intro key
      apply apart
      rw [(Prod.mk.inj key).1, Option.some.inj (Prod.mk.inj key).2]

theorem responseTexts_sealAssistantMessage {turn place content timestamp : String}
    (known : messages.flatMap (ChatMessage.responseTexts turnId segment) = shown.toList)
    (named : responseSegmentIdFromEvent event = some place) :
    (sealAssistantMessage messages turn content timestamp event).flatMap
        (ChatMessage.responseTexts turnId segment) =
      (if (turn, place) = (turnId, segment) ∧ content ≠ "" then some content
        else shown).toList := by
  unfold sealAssistantMessage
  rw [named]
  simp only
  split
  next found =>
    obtain ⟨message, there, own, same⟩ := findAssistantDraftIndex_some found
    by_cases key : (turn, place) = (turnId, segment)
    · obtain ⟨rfl, rfl⟩ := Prod.mk.inj key
      obtain ⟨rfl, changed⟩ := responseTexts_modify known there own same
      have sealed : (message.seal content timestamp (some place) event.eventSeq).responseTexts turn
          place = [if content = "" then message.content else content] := responseTexts_own own rfl
      rw [changed, sealed]
      by_cases nothing : content = "" <;> simp [nothing]
    · rw [if_neg (fun both => key both.1), ← known]
      apply responseTexts_elsewhere there own same ⟨own, rfl⟩
      intro equal
      apply key
      rw [(Prod.mk.inj equal).1, Option.some.inj (Prod.mk.inj equal).2]
  next absent =>
    have nowhere := findAssistantDraftIndex_none absent
    split
    next found =>
      obtain ⟨message, there, holds⟩ := findIdx?_item found
      rw [inSegment, Option.isNone_some, Bool.false_or,
        nowhere message (List.mem_of_getElem? there)] at holds
      cases holds
    · by_cases nothing : content = ""
      · rw [if_pos nothing, if_neg (fun both => both.2 nothing)]
        exact known
      · rw [if_neg nothing, List.flatMap_append, List.flatMap_singleton, known]
        by_cases key : (turn, place) = (turnId, segment)
        · cases key
          have before := responseTexts_absent nowhere
          rw [known, Option.toList_eq_nil_iff] at before
          rw [before, responseTexts_own (by simp [isOfTurn, isAssistantText]) rfl]
          simp [nothing]
        · rw [if_neg (fun both => key both.1),
            responseTexts_other turn (by simp [isOfTurn, isAssistantText]) rfl,
            List.append_nil]
          intro equal
          apply key
          rw [(Prod.mk.inj equal).1, Option.some.inj (Prod.mk.inj equal).2]

theorem responseTexts_appendReasoningDelta {turn delta timestamp : String} {eventSeq : Nat}
    {reasoning : Option String} :
    (appendReasoningDelta messages turn delta timestamp eventSeq reasoning).flatMap
        (ChatMessage.responseTexts turnId segment) =
      messages.flatMap (ChatMessage.responseTexts turnId segment) := by
  unfold appendReasoningDelta
  split
  · rfl
  · simp only
    split
    · apply pushed_unseen
      simp [ChatMessage.responseTexts]
    · exact flatMap_modify_same fun _ _ => rfl

theorem responseTexts_interruptTurn {turn : String} :
    (interruptTurn messages turn event).flatMap (ChatMessage.responseTexts turnId segment) =
      messages.flatMap (ChatMessage.responseTexts turnId segment) := by
  apply flatMap_map_same
  intro message
  split <;> rfl

theorem inResponse_iff {turn place : String} (own : truthy event.turnId = some turn)
    (named : responseSegmentIdFromEvent event = some place) :
    inResponse turnId segment event = true ↔ (turn, place) = (turnId, segment) := by
  simp [inResponse, own, named]

theorem responseTexts_applyTextEvent (segmented : Segmented event)
    (known : messages.flatMap (ChatMessage.responseTexts turnId segment) = shown.toList) :
    (applyTextEvent host messages event).flatMap (ChatMessage.responseTexts turnId segment) =
      (nextResponse host turnId segment shown event).toList := by
  unfold applyTextEvent
  cases own : truthy event.turnId with
  | none => simp [nextResponse, isDeltaOf, isCompletionOf, inResponse, own, known]
  | some turn =>
    cases type : event.type with
    | responseTextDelta =>
      obtain ⟨canonical, some_segment⟩ := segmented.delta type
      obtain ⟨place, named⟩ := Option.isSome_iff_exists.mp some_segment
      simp only [canonical]
      rw [responseTexts_mergeAssistantDraft known named, nextResponse]
      simp [isDeltaOf, isCompletionOf, type, inResponse_iff own named, deltaText]
    | responseCompleted =>
      obtain ⟨place, named⟩ := Option.isSome_iff_exists.mp (segmented.completed type)
      simp only
      rw [responseTexts_sealAssistantMessage known named, nextResponse]
      simp [isDeltaOf, isCompletionOf, type, inResponse_iff own named, completedText]
    | assistantMessage => exact absurd type segmented.current
    | reasoningDelta =>
      simp [responseTexts_appendReasoningDelta, nextResponse, isDeltaOf, isCompletionOf, type, known]
    | turnInterrupted =>
      simp [responseTexts_interruptTurn, nextResponse, isDeltaOf, isCompletionOf, type, known]
    | _ => simp [nextResponse, isDeltaOf, isCompletionOf, type, known]

variable {log : List StreamEvent}

theorem responseTexts_messagesOf (segmented : ∀ event ∈ log, Segmented event) :
    (messagesOf host log).flatMap (ChatMessage.responseTexts turnId segment) =
      (log.foldl (nextResponse host turnId segment) none).toList := by
  induction log using List.reverseRecOn with
  | nil => rfl
  | append_singleton log event ih =>
    have known := ih fun event member => segmented event (List.mem_append_left _ member)
    obtain ⟨before, same, applied⟩ :=
      (responseTexts_view turnId segment).applyMessages host
        (messagesOf host log) event
    rw [messagesOf_snoc, applied, List.foldl_append]
    exact responseTexts_applyTextEvent (segmented event (by simp)) (same.trans known)

theorem not_completed (settled : (log ++ [event]).Pairwise StaysCompleted)
    (delta : isDeltaOf turnId segment event) :
    log.filter (isCompletionOf turnId segment) = [] := by
  rw [List.filter_eq_nil_iff]
  intro earlier member completion
  have apart := (List.pairwise_append.mp settled).2.2 earlier member event
    (List.mem_singleton_self _)
  have named := completion
  simp only [isCompletionOf, inResponse, Bool.and_eq_true, decide_eq_true_eq] at named
  exact apart turnId named.2.1 segment named.2.2 completion delta

theorem responseText_snoc (settled : (log ++ [event]).Pairwise StaysCompleted) :
    responseText host turnId segment (log ++ [event]) =
      (nextResponse host turnId segment (some (responseText host turnId segment log)) event).getD
        "" := by
  simp only [responseText, nextResponse, List.filter_append, List.map_append]
  by_cases delta : isDeltaOf turnId segment event = true
  · have none_own : isCompletionOf turnId segment event = false := by
      simp only [isDeltaOf, Bool.and_eq_true, decide_eq_true_eq] at delta
      simp [isCompletionOf, delta.1]
    -- Nothing is completed before this delta.
    simp [delta, none_own, not_completed settled delta]
  · rw [Bool.not_eq_true] at delta
    cases completion : isCompletionOf turnId segment event with
    | false => simp [delta, completion]
    | true =>
      by_cases nothing : completedText host event = "" <;> simp [delta, completion, nothing]

theorem nextResponse_text (host : Host) (turnId segment : String) (settled : log.Pairwise StaysCompleted) :
    (log.foldl (nextResponse host turnId segment) none).getD "" =
      responseText host turnId segment log := by
  induction log using List.reverseRecOn with
  | nil => rfl
  | append_singleton log event ih =>
    have before := ih (List.pairwise_append.mp settled).1
    rw [responseText_snoc settled, ← before, List.foldl_append, List.foldl_cons, List.foldl_nil]
    cases log.foldl (nextResponse host turnId segment) none with
    | some text => rfl
    | none =>
      simp only [nextResponse, Option.getD_none, Option.getD_some]
      split
      · rfl
      · split <;> rfl

theorem responseTexts_shown (segmented : ∀ event ∈ log, Segmented event)
    (settled : log.Pairwise StaysCompleted)
    (some_text : responseText host turnId segment log ≠ "") :
    (messagesOf host log).flatMap (ChatMessage.responseTexts turnId segment) =
      [responseText host turnId segment log] := by
  have text := nextResponse_text host turnId segment settled
  rw [responseTexts_messagesOf segmented]
  cases shown : log.foldl (nextResponse host turnId segment) none with
  | none =>
    rw [shown] at text
    exact absurd text.symm some_text
  | some content =>
    rw [shown, Option.getD_some] at text
    rw [Option.toList_some, text]

end

end OpenJax.Web
