import OpenJax.Web.Delivery
import OpenJax.Web.Replays

set_option autoImplicit false

namespace OpenJax.Web

open Shared

structure UserText where
  content : String
  turnId : Option String
  startEventSeq : Option Nat
  lastEventSeq : Option Nat
  deriving DecidableEq

def ChatMessage.asUser (message : ChatMessage) : List UserText :=
  if message.kind = .text && message.role = .user then
    [⟨message.content, message.turnId, message.startEventSeq, message.lastEventSeq⟩]
  else []

def userTexts (messages : List ChatMessage) : List UserText := messages.flatMap ChatMessage.asUser

variable (host : Host)

def sentContent (event : StreamEvent) : String := event.payload.text host "content" ""

def isUserMessage (event : StreamEvent) : Bool := event.type = .userMessage

def sentText (event : StreamEvent) : UserText :=
  ⟨sentContent host event, event.turnId, some event.eventSeq, some event.eventSeq⟩

def sentTexts (log : List StreamEvent) : List UserText :=
  (log.filter isUserMessage).map (sentText host)

def sentContents (log : List StreamEvent) : List String :=
  (log.filter isUserMessage).map (sentContent host)

theorem contents_sentTexts (log : List StreamEvent) :
    (sentTexts host log).map UserText.content = sentContents host log := by
  rw [sentTexts, List.map_map]
  rfl

def Turnless (log : List StreamEvent) : Prop :=
  ∀ event ∈ log, event.type = .userMessage → event.turnId = none

instance (log : List StreamEvent) : Decidable (Turnless log) :=
  inferInstanceAs (Decidable (∀ _ ∈ _, _ → _))

theorem asUser_view : UserView ChatMessage.asUser where
  others message other := by
    rw [ChatMessage.asUser, if_neg]
    simpa using other
  drafts _ := rfl

section

variable {host} {messages : List ChatMessage} {event : StreamEvent}

theorem userTexts_applyMessages :
    userTexts (applyMessages host messages event) =
      userTexts (if isUserMessage event then applyUserMessage host messages event
        else messages) := by
  simp only [isUserMessage, decide_eq_true_eq]
  exact asUser_view.applyMessages host messages event

theorem found_user {index : Nat}
    (found : (messages.findIdx? fun message =>
      message.kind = .text && message.role = .user &&
        message.content = event.payload.text host "content" "" &&
        message.turnId = event.turnId) = some index) :
    ∃ message, messages[index]? = some message ∧
      message.asUser = [⟨sentContent host event, event.turnId, message.startEventSeq,
        message.lastEventSeq⟩] := by
  obtain ⟨message, there, holds⟩ := findIdx?_item found
  simp only [Bool.and_eq_true, decide_eq_true_eq] at holds
  refine ⟨message, there, ?_⟩
  simp [ChatMessage.asUser, holds.1.1.1, holds.1.1.2, sentContent, holds.1.2, holds.2]

theorem missing_user
    (missing : (messages.findIdx? fun message =>
      message.kind = .text && message.role = .user &&
        message.content = event.payload.text host "content" "" &&
        message.turnId = event.turnId) = none) :
    ∀ text ∈ userTexts messages, text.turnId = event.turnId →
      text.content ≠ sentContent host event := by
  intro text among turn same
  obtain ⟨message, inside, shown⟩ := List.mem_flatMap.mp among
  unfold ChatMessage.asUser at shown
  split at shown
  next user =>
    obtain rfl := List.mem_singleton.mp shown
    have fails := List.findIdx?_eq_none_iff.mp missing message inside
    simp only [Bool.and_eq_true, decide_eq_true_eq] at user
    have content : message.content = event.payload.text host "content" "" := same
    have own : message.turnId = event.turnId := turn
    simp [user, content, own] at fails
  · cases shown

theorem userTexts_new
    (fresh : sentContent host event ∉ (userTexts messages).map UserText.content) :
    userTexts (applyUserMessage host messages event) =
      userTexts messages ++ [sentText host event] := by
  unfold applyUserMessage
  simp only
  split
  next found =>
    obtain ⟨message, there, shown⟩ := found_user found
    have among : ⟨sentContent host event, event.turnId, message.startEventSeq,
        message.lastEventSeq⟩ ∈ userTexts messages := by
      refine List.mem_flatMap.mpr ⟨message, List.mem_of_getElem? there, ?_⟩
      rw [shown]
      exact List.mem_singleton_self _
    exact absurd (List.mem_map_of_mem among) fresh
  · rw [userTexts, List.flatMap_append, List.flatMap_singleton]
    rfl

end

/-- The user's messages are outside of the turns and no two of them have one content. -/
structure Distinct (texts : List UserText) : Prop where
  turnless : ∀ text ∈ texts, text.turnId = none
  contents : (texts.map UserText.content).Nodup

section

variable {host} {messages : List ChatMessage} {event : StreamEvent} {log : List StreamEvent}

theorem Distinct.applyUserMessage (distinct : Distinct (userTexts messages))
    (turnless : event.turnId = none) :
    Distinct (userTexts (applyUserMessage host messages event)) := by
  unfold Web.applyUserMessage
  simp only
  split
  next _ index found =>
    obtain ⟨message, there, shown⟩ := found_user found
    -- The message found keeps its content and has no turn as before.
    have same {β : Type} (part : UserText → β)
        (kept : ∀ text start last, part ⟨text, none, start, last⟩ = part ⟨text, none, none, none⟩) :
        (userTexts (messages.modify index fun message =>
          { message with
            timestamp := event.timestamp
            startEventSeq := message.startEventSeq.or (some event.eventSeq)
            lastEventSeq := latest message.lastEventSeq event.eventSeq
            turnId := event.turnId })).map part = (userTexts messages).map part := by
      rw [userTexts, List.map_flatMap, userTexts, List.map_flatMap]
      apply flatMap_modify_found there
      rw [shown]
      unfold ChatMessage.asUser at shown ⊢
      split at shown
      next user =>
        simp only [List.cons.injEq, UserText.mk.injEq, and_true] at shown
        simp only [user, if_true, List.map_cons, List.map_nil, turnless, shown.1]
        rw [kept, kept _ message.startEventSeq]
      · cases shown
    refine ⟨?_, ?_⟩
    · intro text among
      have turns := same UserText.turnId fun _ _ _ => rfl
      have turn : text.turnId ∈ (userTexts messages).map UserText.turnId := by
        rw [← turns]
        exact List.mem_map_of_mem among
      obtain ⟨other, inside, equal⟩ := List.mem_map.mp turn
      rw [← equal]
      exact distinct.turnless other inside
    · rw [same UserText.content fun _ _ _ => rfl]
      exact distinct.contents
  next missing =>
    have fresh := missing_user missing
    rw [userTexts, List.flatMap_append, List.flatMap_singleton]
    refine ⟨?_, ?_⟩
    · intro text among
      rcases List.mem_append.mp among with before | own
      · exact distinct.turnless text before
      · obtain rfl := List.mem_singleton.mp own
        exact turnless
    · rw [List.map_append]
      apply distinct.contents.append (List.nodup_singleton _)
      intro content before own
      obtain rfl := List.mem_singleton.mp own
      obtain ⟨text, inside, same⟩ := List.mem_map.mp before
      exact fresh text inside (by rw [distinct.turnless text inside, turnless]) same

theorem Turnless.of_append {rest : List StreamEvent} (turnless : Turnless (log ++ rest)) :
    Turnless log :=
  fun event member => turnless event (List.mem_append_left rest member)

theorem distinct_messagesOf (turnless : Turnless log) :
    Distinct (userTexts (messagesOf host log)) := by
  induction log using List.reverseRecOn with
  | nil => exact ⟨fun _ among => absurd among List.not_mem_nil, List.nodup_nil⟩
  | append_singleton log event ih =>
    rw [messagesOf_snoc, userTexts_applyMessages]
    split
    next own =>
      apply (ih turnless.of_append).applyUserMessage
      exact turnless event (by simp) (of_decide_eq_true own)
    · exact ih turnless.of_append

theorem sentTexts_snoc (log : List StreamEvent) (event : StreamEvent) :
    sentTexts host (log ++ [event]) =
      sentTexts host log ++ if isUserMessage event then [sentText host event] else [] := by
  rw [sentTexts, List.filter_append, List.map_append]
  cases own : isUserMessage event <;> simp [own, sentTexts]

theorem userTexts_messagesOf (distinct : (sentContents host log).Nodup) :
    userTexts (messagesOf host log) = sentTexts host log := by
  induction log using List.reverseRecOn with
  | nil => rfl
  | append_singleton log event ih =>
    rw [← contents_sentTexts, sentTexts_snoc, List.map_append, contents_sentTexts] at distinct
    have before := ih distinct.of_append_left
    rw [messagesOf_snoc, userTexts_applyMessages, sentTexts_snoc]
    split
    next own =>
      rw [if_pos own] at distinct
      rw [← before]
      apply userTexts_new
      rw [before, contents_sentTexts]
      intro among
      exact List.disjoint_of_nodup_append distinct among (List.mem_singleton_self _)
    · rw [before, List.append_nil]

end

theorem user_texts_shown_iff {session : ChatSession} {log : List StreamEvent}
    (unfilled : Unfilled session) (numbered : Numbered log) (turnless : Turnless log) :
    userTexts (applySessionEvents host session log).messages = sentTexts host log ↔
      (sentContents host log).Nodup := by
  rw [replayed_messages unfilled numbered]
  constructor
  next =>
    intro shown
    rw [← contents_sentTexts, ← shown]
    exact (distinct_messagesOf turnless).contents
  next => exact userTexts_messagesOf

def userEvent (seq : Nat) (content : String) : StreamEvent :=
  { eventSeq := seq, turnSeq := some 0, type := .userMessage, payload := [("content", .str content)] }

theorem user_texts_shown_iff_of_two :
    userTexts (applySessionEvents plainHost {} [userEvent 1 "yes", userEvent 2 "no"]).messages =
        sentTexts plainHost [userEvent 1 "yes", userEvent 2 "no"] ↔
      (sentContents plainHost [userEvent 1 "yes", userEvent 2 "no"]).Nodup :=
  user_texts_shown_iff plainHost ⟨rfl, rfl⟩ (by decide) (by decide)

theorem repeated_text_merged :
    Numbered [userEvent 1 "yes", userEvent 2 "yes"] ∧
      Turnless [userEvent 1 "yes", userEvent 2 "yes"] ∧
      userTexts (applySessionEvents plainHost {} [userEvent 1 "yes", userEvent 2 "yes"]).messages =
        [⟨"yes", none, some 1, some 2⟩] ∧
      sentTexts plainHost [userEvent 1 "yes", userEvent 2 "yes"] =
        [⟨"yes", none, some 1, some 1⟩, ⟨"yes", none, some 2, some 2⟩] := by
  refine ⟨by decide, by decide, by decide +kernel, by decide +kernel⟩

end OpenJax.Web
