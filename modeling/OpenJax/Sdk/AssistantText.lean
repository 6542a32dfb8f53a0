import OpenJax.Shared.Json
import Mathlib.Data.List.Basic
import Mathlib.Logic.Function.Basic

set_option autoImplicit false

namespace OpenJax.Sdk

open OpenJax.Shared

structure EventEnvelope where
  turnId : Option String
  eventType : String
  payload : List (String × Json)

def EventEnvelope.turn (evt : EventEnvelope) : Option String := evt.turnId.filter (· ≠ "")

structure TurnTexts where
  assistantDeltaBuffer : String → List (List Char)
  responseDeltaSeen : String → Bool

def TurnTexts.empty : TurnTexts := ⟨fun _ => [], fun _ => false⟩

def TurnTexts.append (texts : TurnTexts) (turnId : String) (text : List Char) : TurnTexts :=
  { texts with
    assistantDeltaBuffer := Function.update texts.assistantDeltaBuffer turnId
      (texts.assistantDeltaBuffer turnId ++ [text]) }

def TurnTexts.assistantTextForTurn (texts : TurnTexts) (turnId : String) : List Char :=
  (texts.assistantDeltaBuffer turnId).flatten

section

-- Python's own text of a JSON value.
variable (str : Json → List Char)

def EventEnvelope.text (evt : EventEnvelope) (key : String) : List Char :=
  ((evt.payload.lookup key).map str).getD []

def hearDelta (eventType : String) (evt : EventEnvelope) (texts : TurnTexts) : TurnTexts :=
  match evt.turn with
  | some turnId =>
      if evt.eventType = eventType then
        { texts.append turnId (evt.text str "content_delta") with
          responseDeltaSeen := Function.update texts.responseDeltaSeen turnId true }
      else texts
  | none => texts

def hearContent (eventType : String) (evt : EventEnvelope) (texts : TurnTexts) : TurnTexts :=
  match evt.turn with
  | some turnId =>
      if evt.eventType = eventType then
        -- The flag is read here and not set.
        if !texts.responseDeltaSeen turnId then texts.append turnId (evt.text str "content")
        else texts
      else texts
  | none => texts

def TurnTexts.hear (texts : TurnTexts) (evt : EventEnvelope) : TurnTexts :=
  let texts := hearDelta str "response_text_delta" evt texts
  let texts := hearDelta str "assistant_delta" evt texts
  let texts := hearContent str "assistant_message" evt texts
  hearContent str "response_completed" evt texts

def deltaOf (turnId : String) (evt : EventEnvelope) : Option (List Char) :=
  if evt.turnId = some turnId ∧
      (evt.eventType = "response_text_delta" ∨ evt.eventType = "assistant_delta") then
    some (evt.text str "content_delta")
  else none

def finalOf (turnId : String) (evt : EventEnvelope) : Option (List Char) :=
  if evt.turnId = some turnId ∧
      (evt.eventType = "assistant_message" ∨ evt.eventType = "response_completed") then
    some (evt.text str "content")
  else none

def deltas (turnId : String) (stream : List EventEnvelope) : List (List Char) :=
  stream.filterMap (deltaOf str turnId)

def finals (turnId : String) (stream : List EventEnvelope) : List (List Char) :=
  stream.filterMap (finalOf str turnId)

/-- What a stream tells of one turn: its deltas come first, and all of it is the same text. -/
structure Tells (turnId : String) (content : List Char) (stream : List EventEnvelope) : Prop where
  ordered : ∃ before after, stream = before ++ after ∧
    finals str turnId before = [] ∧ deltas str turnId after = []
  whole : deltas str turnId stream ≠ [] → (deltas str turnId stream).flatten = content
  final : ∀ text ∈ finals str turnId stream, text = content
  told : deltas str turnId stream ≠ [] ∨ finals str turnId stream ≠ []

end

section

variable {str : Json → List Char} {turnId : String} {evt : EventEnvelope} {texts : TurnTexts}

def TurnTexts.forTurn (texts : TurnTexts) (turnId : String) : List (List Char) × Bool :=
  (texts.assistantDeltaBuffer turnId, texts.responseDeltaSeen turnId)

theorem EventEnvelope.turn_eq (real : turnId ≠ "") :
    evt.turn = some turnId ↔ evt.turnId = some turnId := by
  rw [EventEnvelope.turn, Option.filter_eq_some_iff]
  simp [real]

variable (eventType : String)

theorem hearDelta_forTurn (real : turnId ≠ "") :
    (hearDelta str eventType evt texts).forTurn turnId =
      if evt.turnId = some turnId ∧ evt.eventType = eventType then
        ((texts.forTurn turnId).1 ++ [evt.text str "content_delta"], true)
      else texts.forTurn turnId := by
  have owned : evt.turn = some turnId ↔ evt.turnId = some turnId := EventEnvelope.turn_eq real
  rw [hearDelta]
  simp only [← owned]
  split
  next other found =>
    rw [found]
    by_cases own : other = turnId
    · subst own
      split <;> simp_all [TurnTexts.forTurn, TurnTexts.append]
    · have apart : turnId ≠ other := fun same => own same.symm
      split <;> simp [own, apart, TurnTexts.forTurn, TurnTexts.append]
  next none => simp [none]

theorem hearContent_forTurn (real : turnId ≠ "") :
    (hearContent str eventType evt texts).forTurn turnId =
      if evt.turnId = some turnId ∧ evt.eventType = eventType ∧ !(texts.forTurn turnId).2 then
        ((texts.forTurn turnId).1 ++ [evt.text str "content"], false)
      else texts.forTurn turnId := by
  have owned : evt.turn = some turnId ↔ evt.turnId = some turnId := EventEnvelope.turn_eq real
  rw [hearContent]
  simp only [← owned]
  split
  next other found =>
    rw [found]
    by_cases own : other = turnId
    · subst own
      split
      next kind => split <;> simp_all [TurnTexts.forTurn, TurnTexts.append]
      next kind => simp [kind]
    · have apart : turnId ≠ other := fun same => own same.symm
      split
      next kind => split <;> simp [own, apart, TurnTexts.forTurn, TurnTexts.append]
      next kind => simp [kind]
  next none => simp [none]

theorem hear_forTurn (real : turnId ≠ "") (evt : EventEnvelope) :
    (texts.hear str evt).forTurn turnId =
      ((texts.forTurn turnId).1 ++ (deltaOf str turnId evt).toList ++
        (if (texts.forTurn turnId).2 then [] else (finalOf str turnId evt).toList),
        (texts.forTurn turnId).2 || (deltaOf str turnId evt).isSome) := by
  simp only [TurnTexts.hear, hearContent_forTurn _ real, hearDelta_forTurn _ real, deltaOf, finalOf]
  by_cases own : evt.turnId = some turnId
  · by_cases text : evt.eventType = "response_text_delta"
    · simp [own, text]
    · by_cases legacy : evt.eventType = "assistant_delta"
      · simp [own, legacy]
      · by_cases message : evt.eventType = "assistant_message"
        · cases seen : (texts.forTurn turnId).2 <;> simp [own, message, seen, Prod.ext_iff]
        · by_cases completed : evt.eventType = "response_completed"
          · cases seen : (texts.forTurn turnId).2 <;> simp [own, completed, seen, Prod.ext_iff]
          · simp [text, legacy, message, completed]
  · simp [own]

variable {stream : List EventEnvelope} {content : List Char}

theorem deltas_append (before after : List EventEnvelope) :
    deltas str turnId (before ++ after) = deltas str turnId before ++ deltas str turnId after :=
  List.filterMap_append

theorem finals_append (before after : List EventEnvelope) :
    finals str turnId (before ++ after) = finals str turnId before ++ finals str turnId after :=
  List.filterMap_append

theorem hear_deltas (real : turnId ≠ "") (none : finals str turnId stream = []) :
    (stream.foldl (TurnTexts.hear str) texts).forTurn turnId =
      ((texts.forTurn turnId).1 ++ deltas str turnId stream,
        (texts.forTurn turnId).2 || !(deltas str turnId stream).isEmpty) := by
  induction stream generalizing texts with
  | nil => simp [deltas]
  | cons evt rest ih =>
    rw [finals, List.filterMap_eq_nil_iff] at none
    have silent := none evt List.mem_cons_self
    have later : finals str turnId rest = [] :=
      List.filterMap_eq_nil_iff.mpr fun other member => none other (List.mem_cons_of_mem _ member)
    rw [List.foldl_cons, ih later, hear_forTurn real evt, silent, deltas, deltas,
      List.filterMap_cons]
    cases deltaOf str turnId evt <;> simp

theorem hear_finals (real : turnId ≠ "") (none : deltas str turnId stream = []) :
    (stream.foldl (TurnTexts.hear str) texts).forTurn turnId =
      ((texts.forTurn turnId).1 ++
        (if (texts.forTurn turnId).2 then [] else finals str turnId stream),
        (texts.forTurn turnId).2) := by
  induction stream generalizing texts with
  | nil => simp [finals]
  | cons evt rest ih =>
    rw [deltas, List.filterMap_eq_nil_iff] at none
    have silent := none evt List.mem_cons_self
    have later : deltas str turnId rest = [] :=
      List.filterMap_eq_nil_iff.mpr fun other member => none other (List.mem_cons_of_mem _ member)
    rw [List.foldl_cons, ih later, hear_forTurn real evt, silent, finals, finals,
      List.filterMap_cons]
    cases finalOf str turnId evt <;> cases (texts.forTurn turnId).2 <;> simp

theorem EventEnvelope.turn_named (found : evt.turn = some turnId) : turnId ≠ "" := by
  rw [EventEnvelope.turn, Option.filter_eq_some_iff] at found
  simpa using found.2

theorem append_unnamed (texts : TurnTexts) (real : turnId ≠ "") (text : List Char) :
    (texts.append turnId text).assistantDeltaBuffer "" = texts.assistantDeltaBuffer "" :=
  Function.update_of_ne real.symm _ _

theorem hearDelta_unnamed (evt : EventEnvelope) (texts : TurnTexts) :
    (hearDelta str eventType evt texts).assistantDeltaBuffer "" =
      texts.assistantDeltaBuffer "" := by
  rw [hearDelta]
  split
  next turnId found =>
    split
    · exact append_unnamed texts (EventEnvelope.turn_named found) _
    · rfl
  · rfl

theorem hearContent_unnamed (evt : EventEnvelope) (texts : TurnTexts) :
    (hearContent str eventType evt texts).assistantDeltaBuffer "" =
      texts.assistantDeltaBuffer "" := by
  rw [hearContent]
  split
  next turnId found =>
    split
    · split
      · exact append_unnamed texts (EventEnvelope.turn_named found) _
      · rfl
    · rfl
  · rfl

theorem hear_unnamed (stream : List EventEnvelope) (texts : TurnTexts) :
    (stream.foldl (TurnTexts.hear str) texts).assistantDeltaBuffer "" =
      texts.assistantDeltaBuffer "" := by
  induction stream generalizing texts with
  | nil => rfl
  | cons evt rest ih =>
    rw [List.foldl_cons, ih, TurnTexts.hear, hearContent_unnamed, hearContent_unnamed,
      hearDelta_unnamed, hearDelta_unnamed]

theorem gathered_eq (real : turnId ≠ "") (tells : Tells str turnId content stream) :
    (stream.foldl (TurnTexts.hear str) .empty).assistantDeltaBuffer turnId =
      if (deltas str turnId stream).isEmpty then finals str turnId stream
      else deltas str turnId stream := by
  obtain ⟨before, after, rfl, first, last⟩ := tells.ordered
  have begun : (before.foldl (TurnTexts.hear str) .empty).forTurn turnId =
      (deltas str turnId before, !(deltas str turnId before).isEmpty) := hear_deltas real first
  have gathered : (after.foldl (TurnTexts.hear str)
      (before.foldl (TurnTexts.hear str) .empty)).assistantDeltaBuffer turnId = _ :=
    congrArg Prod.fst (hear_finals real last)
  rw [begun] at gathered
  rw [List.foldl_append]
  refine gathered.trans ?_
  rw [deltas_append, finals_append, first, last, List.append_nil, List.nil_append]
  cases deltas str turnId before <;> simp

theorem flatten_repeated {texts : List (List Char)} (all : ∀ text ∈ texts, text = content) :
    texts.flatten = content ↔ content = [] ∨ texts.length = 1 := by
  rcases texts with _ | ⟨first, _ | ⟨second, rest⟩⟩
  · simp [eq_comm]
  · simp [all]
  · cases all first (by simp)
    cases all second (by simp)
    rw [List.flatten_cons, List.append_right_eq_self, List.flatten_cons, List.append_eq_nil_iff]
    constructor
    · exact fun none => .inl none.1
    · rintro (rfl | single)
      · exact ⟨rfl, List.flatten_eq_nil_iff.mpr fun text member => all text (by simp [member])⟩
      · cases single

/-- The text of a turn is right when it had deltas, or a single final event. -/
theorem assistant_text_iff (tells : Tells str turnId content stream) :
    (stream.foldl (TurnTexts.hear str) .empty).assistantTextForTurn turnId = content ↔
      content = [] ∨ (turnId ≠ "" ∧
        (deltas str turnId stream ≠ [] ∨ (finals str turnId stream).length = 1)) := by
  by_cases real : turnId = ""
  · subst real
    rw [TurnTexts.assistantTextForTurn, hear_unnamed]
    exact ⟨fun same => .inl same.symm, fun silent => by simpa [TurnTexts.empty] using silent.symm⟩
  · rw [TurnTexts.assistantTextForTurn, gathered_eq real tells]
    by_cases streamed : deltas str turnId stream = []
    · rw [if_pos (List.isEmpty_iff.mpr streamed), flatten_repeated tells.final]
      simp [real, streamed]
    · rw [if_neg (by simpa using streamed), tells.whole streamed]
      simp [real, streamed]

end

def exampleStr : Json → List Char
  | .str value => value.toList
  | _ => []

def exampleEvent (turnId eventType key text : String) : EventEnvelope :=
  ⟨some turnId, eventType, [(key, .str text)]⟩

def exampleStream : List EventEnvelope :=
  [exampleEvent "1" "response_text_delta" "content_delta" "he",
    exampleEvent "2" "assistant_message" "content" "hi",
    exampleEvent "1" "assistant_delta" "content_delta" "llo",
    exampleEvent "1" "response_completed" "content" "hello",
    exampleEvent "2" "response_completed" "content" "hi"]

theorem exampleStream_streamed : Tells exampleStr "1" "hello".toList exampleStream :=
  ⟨⟨exampleStream.take 3, exampleStream.drop 3, rfl, rfl, rfl⟩, fun _ => rfl, by decide, by decide⟩

theorem assistant_text_iff_streamed :
    (exampleStream.foldl (TurnTexts.hear exampleStr) .empty).assistantTextForTurn "1" =
      "hello".toList :=
  (assistant_text_iff exampleStream_streamed).mpr (by decide)

theorem exampleStream_told : Tells exampleStr "2" "hi".toList exampleStream :=
  ⟨⟨[], exampleStream, rfl, rfl, rfl⟩, by decide, by decide, by decide⟩

theorem assistant_text_doubled :
    ¬∀ (turnId : String) (content : List Char) (stream : List EventEnvelope),
      Tells exampleStr turnId content stream →
        (stream.foldl (TurnTexts.hear exampleStr) .empty).assistantTextForTurn turnId =
          content := by
  intro all
  have twice : "hihi".toList = "hi".toList := all "2" _ exampleStream exampleStream_told
  exact absurd twice (by decide)

end OpenJax.Sdk
