import OpenJax.Agent.SpokenText
import OpenJax.Agent.ToolLifecycle
import OpenJax.Tui.App

set_option autoImplicit false

namespace OpenJax.Tui

open Shared Protocol Agent

inductive HistoryCell where
  | assistant (id : Nat) (content : String)
  | tool (id : Nat)
  | system (id : Nat) (content : String)

structure AppHistory where
  app : App
  historyCells : List HistoryCell
  pendingHistoryCells : List HistoryCell
  nextCellId : Nat
  lastAssistantCommittedTurn : Option Nat

namespace AppHistory

def start (policyDefault : String) : AppHistory := ⟨.start policyDefault, [], [], 1, none⟩

def queueHistoryCell (history : AppHistory) (cell : Nat → HistoryCell) : AppHistory :=
  { history with
    historyCells := history.historyCells ++ [cell history.nextCellId]
    pendingHistoryCells := history.pendingHistoryCells ++ [cell history.nextCellId]
    nextCellId := min (history.nextCellId + 1) 0xFFFFFFFFFFFFFFFF }

def commitAssistant (history : AppHistory) (turnId : Nat) : AppHistory :=
  if history.app.streamTurnId = some turnId ∧ history.app.streamText ≠ "" ∧
      history.lastAssistantCommittedTurn ≠ some turnId then
    { history.queueHistoryCell fun id => .assistant id history.app.streamText with
      lastAssistantCommittedTurn := some turnId }
  else history

def queueCells (history : AppHistory) : Event → AppHistory
  | .toolCallStarted .. | .toolCallCompleted .. => history.queueHistoryCell .tool
  | .toolCallFailed _ _ toolName _ message _ _ =>
      history.queueHistoryCell fun id => .system id s!"tool {toolName} failed: {message}"
  | .approvalResolved _ requestId approved =>
      if history.app.pendingApproval.any fun pending => pending.requestId ≠ requestId then history
      else
        let answer := if approved then "approved" else "rejected"
        history.queueHistoryCell fun id => .system id s!"approval resolved {answer} ({requestId})"
  | .turnCompleted turnId => history.commitAssistant turnId
  | .responseError _ _ message _ =>
      history.queueHistoryCell fun id => .system id s!"Response failed: {message}"
  | _ => history

def applyCoreEvent (history : AppHistory) (event : Event) : AppHistory :=
  { history.queueCells event with app := history.app.applyCoreEvent event }

def applyEvents (history : AppHistory) (events : List Event) : AppHistory :=
  events.foldl applyCoreEvent history

def cellText : HistoryCell → List Char
  | .assistant _ content => content.toList
  | .tool _ | .system .. => []

def queuedText (history : AppHistory) (events : List Event) : List Char :=
  ((history.applyEvents events).pendingHistoryCells.drop
    history.pendingHistoryCells.length).flatMap cellText

def collected (history : AppHistory) (turnId : Nat) : List Char :=
  if history.app.streamTurnId = some turnId then history.app.streamText.toList else []

structure Queues (before after : AppHistory) (text : List Char) : Prop where
  cells : ∃ added, after.pendingHistoryCells = before.pendingHistoryCells ++ added ∧
    added.flatMap cellText = text

structure Listens (turnId : Nat) (before after : AppHistory) (text : List Char) : Prop
    extends Queues before after [] where
  committed : after.lastAssistantCommittedTurn = before.lastAssistantCommittedTurn
  collected : after.collected turnId = before.collected turnId ++ text

section

variable {turnId : Nat} {before middle after : AppHistory} {first second : List Char}

variable (history : AppHistory)

theorem Queues.refl : Queues history history [] :=
  ⟨[], (List.append_nil _).symm, rfl⟩

theorem Queues.trans (left : Queues before middle first) (right : Queues middle after second) :
    Queues before after (first ++ second) := by
  obtain ⟨added, cells, text⟩ := left.cells
  obtain ⟨more, others, later⟩ := right.cells
  refine ⟨added ++ more, ?_, ?_⟩
  · rw [others, cells, List.append_assoc]
  · rw [List.flatMap_append, text, later]

theorem Listens.trans (left : Listens turnId before middle first)
    (right : Listens turnId middle after second) :
    Listens turnId before after (first ++ second) where
  cells := (left.toQueues.trans right.toQueues).cells
  committed := right.committed.trans left.committed
  collected := by rw [right.collected, left.collected, List.append_assoc]

variable {events : List Event}

theorem Queues.queuedText_eq (queues : Queues before (before.applyEvents events) first) :
    before.queuedText events = first := by
  obtain ⟨added, cells, text⟩ := queues.cells
  rw [queuedText, cells, List.drop_left, text]

theorem Queues.of_foldl (queues : Queues before after first)
    (same : before.applyEvents events = after) :
    Queues before (before.applyEvents events) first := same ▸ queues

theorem queues_cell {cell : Nat → HistoryCell} (mute : ∀ id, cellText (cell id) = []) :
    Queues history (history.queueHistoryCell cell) [] :=
  ⟨[cell history.nextCellId], rfl, by simp [mute]⟩

variable {event : Event}

theorem queueCells_silent (quiet : silent event) :
    Queues history (history.queueCells event) [] ∧
      (history.queueCells event).lastAssistantCommittedTurn =
        history.lastAssistantCommittedTurn := by
  cases event
  case turnStarted | turnCompleted | assistantMessage | responseStarted | responseResumed |
    responseTextDelta | responseCompleted => cases quiet
  case toolCallStarted | toolCallCompleted => exact ⟨queues_cell history fun _ => rfl, rfl⟩
  case toolCallFailed | responseError =>
    exact ⟨⟨[.system history.nextCellId _], rfl, rfl⟩, rfl⟩
  case approvalResolved =>
    rw [queueCells]
    split
    · exact ⟨.refl history, rfl⟩
    · exact ⟨queues_cell history fun _ => rfl, rfl⟩
  all_goals exact ⟨.refl history, rfl⟩

theorem stream_silent (app : App) (quiet : silent event) :
    (app.applyCoreEvent event).streamTurnId = app.streamTurnId ∧
      (app.applyCoreEvent event).streamText = app.streamText := by
  cases event
  case turnStarted | turnCompleted | assistantMessage | responseStarted | responseResumed |
    responseTextDelta | responseCompleted => cases quiet
  case approvalRequested =>
    simp only [App.applyCoreEvent, App.approvalRequested]
    repeat' split
    all_goals exact ⟨rfl, rfl⟩
  case approvalResolved =>
    simp only [App.applyCoreEvent, App.approvalResolved]
    split <;> exact ⟨rfl, rfl⟩
  all_goals exact ⟨rfl, rfl⟩

theorem listens_silent (quiet : silent event) :
    Listens turnId history (history.applyCoreEvent event) [] := by
  obtain ⟨turn, text⟩ := stream_silent history.app quiet
  obtain ⟨queues, committed⟩ := queueCells_silent history quiet
  refine ⟨⟨queues.cells⟩, committed, ?_⟩
  simp only [collected, applyCoreEvent, turn, text, List.append_nil]

theorem listens_streaming (own : streaming turnId event) :
    Listens turnId history (history.applyCoreEvent event) (deltaOf event) := by
  cases event
  case responseStarted other source =>
    obtain rfl : other = turnId := by simpa [streaming] using own
    refine ⟨⟨(Queues.refl history).cells⟩, rfl, ?_⟩
    simp only [collected, applyCoreEvent, App.applyCoreEvent, deltaOf, if_true, List.append_nil]
    split <;> rfl
  case responseTextDelta other delta source =>
    obtain rfl : other = turnId := by simpa [streaming] using own
    refine ⟨⟨(Queues.refl history).cells⟩, rfl, ?_⟩
    simp only [collected, applyCoreEvent, App.applyCoreEvent, App.applyStreamDelta, deltaOf,
      if_true, String.toList_append]
    split <;> rfl
  case turnStarted | turnCompleted | assistantMessage | responseResumed | responseCompleted =>
    cases own
  all_goals exact listens_silent history own

theorem listens_spoken {text : List Char} (spoken : Spoken turnId events text)
    (history : AppHistory) : Listens turnId history (history.applyEvents events) text := by
  obtain ⟨own, rfl⟩ := spoken
  induction events generalizing history with
  | nil => exact ⟨.refl history, rfl, (List.append_nil _).symm⟩
  | cons event rest ih =>
    rw [List.all_cons, Bool.and_eq_true] at own
    exact (listens_streaming history own.1).trans (ih _ own.2)

theorem collected_completed (content : String) (source : StreamSource) :
    (history.applyCoreEvent (.responseCompleted turnId content source)).collected turnId =
      content.toList := by
  simp [collected, applyCoreEvent, App.applyCoreEvent]

theorem queues_turnCompleted (uncommitted : history.lastAssistantCommittedTurn ≠ some turnId) :
    Queues history (history.applyCoreEvent (.turnCompleted turnId))
      (history.collected turnId) := by
  have committed : Queues history (history.commitAssistant turnId) (history.collected turnId) := by
    rw [commitAssistant, collected]
    by_cases own : history.app.streamTurnId = some turnId
    · by_cases empty : history.app.streamText = ""
      · rw [if_neg (fun all => all.2.1 empty), if_pos own, empty]
        exact .refl history
      · rw [if_pos ⟨own, empty, uncommitted⟩, if_pos own]
        exact ⟨[.assistant history.nextCellId history.app.streamText], rfl, by simp [cellText]⟩
    · rw [if_neg (fun all => own all.1), if_neg own]
      exact .refl history
  exact ⟨committed.cells⟩

theorem uncommitted_earlier {earlier : List Event}
    (uncommitted : history.lastAssistantCommittedTurn ≠ some turnId)
    (fresh : .turnCompleted turnId ∉ earlier) :
    (history.applyEvents earlier).lastAssistantCommittedTurn ≠ some turnId := by
  induction earlier generalizing history with
  | nil => exact uncommitted
  | cons event rest ih =>
    rw [List.mem_cons, not_or] at fresh
    refine ih _ ?_ fresh.2
    by_cases quiet : silent event
    · have same := (queueCells_silent history quiet).2
      rwa [← same] at uncommitted
    · cases event
      case turnCompleted other =>
        have apart : other ≠ turnId := fun same => fresh.1 (by rw [same])
        simp only [applyCoreEvent, queueCells, commitAssistant]
        split
        · exact fun same => apart (Option.some.inj same)
        · exact uncommitted
      case turnStarted | assistantMessage | responseStarted | responseResumed |
        responseTextDelta | responseCompleted => exact uncommitted
      all_goals exact absurd rfl quiet

theorem queuedText_broken {turn : Turn} {said : List Char} (broken : Broken turn said events)
    (history : AppHistory) (uncommitted : history.lastAssistantCommittedTurn ≠ some turn.turnId) :
    history.queuedText events = said ∧ deltaText events = said := by
  obtain ⟨body, rfl, spoken⟩ := broken
  have started : Queues history (history.applyCoreEvent (.turnStarted turn.turnId)) [] :=
    ⟨(Queues.refl history).cells⟩
  have listens := listens_spoken spoken (history.applyCoreEvent (.turnStarted turn.turnId))
  have ended := queues_turnCompleted
    ((history.applyCoreEvent (.turnStarted turn.turnId)).applyEvents body)
    (listens.committed ▸ uncommitted)
  rw [listens.collected, show (history.applyCoreEvent (.turnStarted turn.turnId)).collected
    turn.turnId = [] from rfl, List.nil_append] at ended
  have whole := (started.trans listens.toQueues).trans ended
  refine ⟨Queues.queuedText_eq (whole.of_foldl ?_), ?_⟩
  · rw [applyEvents, List.foldl_cons, List.foldl_append]
    rfl
  · rw [← spoken.text]
    simp [deltaText, deltaOf]

theorem queuedText_concluded {turn : Turn} {said : List Char}
    (concluded : Concluded turn said events) (history : AppHistory)
    (uncommitted : history.lastAssistantCommittedTurn ≠ some turn.turnId) :
    history.queuedText events = deltaText events ↔ said = [] := by
  obtain ⟨body, content, source, rfl, spoken⟩ := concluded
  have started : Queues history (history.applyCoreEvent (.turnStarted turn.turnId)) [] :=
    ⟨(Queues.refl history).cells⟩
  have listens := listens_spoken spoken (history.applyCoreEvent (.turnStarted turn.turnId))
  let streamed := (history.applyCoreEvent (.turnStarted turn.turnId)).applyEvents body
  have completed : Queues streamed
      (streamed.applyCoreEvent (.responseCompleted turn.turnId content source)) [] :=
    ⟨(Queues.refl streamed).cells⟩
  have ended := queues_turnCompleted
    (streamed.applyCoreEvent (.responseCompleted turn.turnId content source))
    (show streamed.lastAssistantCommittedTurn ≠ _ from listens.committed ▸ uncommitted)
  rw [collected_completed] at ended
  have whole := (started.trans listens.toQueues).trans (completed.trans ended)
  have reached : history.applyEvents (.turnStarted turn.turnId ::
      (body ++ [.responseCompleted turn.turnId content source, .turnCompleted turn.turnId])) =
      (streamed.applyCoreEvent (.responseCompleted turn.turnId content source)).applyCoreEvent
        (.turnCompleted turn.turnId) := by
    rw [applyEvents, List.foldl_cons, List.foldl_append]
    rfl
  have kept := Queues.queuedText_eq (whole.of_foldl reached)
  have spokenText : deltaText (.turnStarted turn.turnId ::
      (body ++ [.responseCompleted turn.turnId content source, .turnCompleted turn.turnId])) =
        said ++ content.toList := by
    rw [← spoken.text]
    simp [deltaText, deltaOf]
  rw [kept, spokenText]
  -- The cell has the final response alone.
  constructor
  · intro same
    exact List.self_eq_append_left.mp same
  · rintro rfl
    rfl

/-- The text of the answers before the final response is not in the turn's cell. -/
theorem turn_text_kept_iff {turn : Turn} {history : List HistoryItem}
    {loopDetector : LoopDetector} {inputs : List TurnInput} {final : TurnState}
    (ran : run (step turn) (turn.start history loopDetector) inputs = some final)
    (finished : final.phase = .finished) {earlier : List Event}
    (fresh : .turnCompleted turn.turnId ∉ earlier) (policyDefault : String) :
    ((start policyDefault).applyEvents earlier).queuedText final.events =
        deltaText final.events ↔
      (inputs.any completes → ∀ input ∈ inputs.dropLast, answerText input = []) := by
  have uncommitted := uncommitted_earlier (start policyDefault) (fun same => by cases same) fresh
  rcases run_ended (told_start history loopDetector) ran finished with ⟨none, broken⟩ |
    ⟨some, concluded⟩
  · obtain ⟨kept, whole⟩ := queuedText_broken broken _ uncommitted
    simp [kept, whole, none]
  · rw [queuedText_concluded concluded _ uncommitted, List.nil_append, List.flatMap_eq_nil_iff]
    simp [some]

end

def looks (text : String) : TurnInput :=
  .model ⟨[.text text, .toolUseStart "c1" "shell", .toolUseEnd "c1"],
    .ok { content := [listFiles "c1"], stopReason := some .toolUse }, none⟩

def answersLive : TurnInput :=
  .model ⟨[.text "Done."], .ok { content := [.text "Done."], stopReason := some .endTurn }, none⟩

theorem turn_text_kept_after_call : ∃ final,
    run (step longTurn) (longTurn.start [] LoopDetector.new)
        [looks "", toolSucceeds, answersLive] = some final ∧
      (start "ask").queuedText final.events = deltaText final.events := by
  have ends : (run (step longTurn) (longTurn.start [] LoopDetector.new)
      [looks "", toolSucceeds, answersLive]).any (finishes fun _ => true) = true := by
    decide +kernel
  obtain ⟨final, ran, ended⟩ := (Option.any_eq_true _ _).mp ends
  refine ⟨final, ran, (turn_text_kept_iff ran (finishes_eq_true ended).1
    List.not_mem_nil "ask").mpr fun _ => ?_⟩
  decide +kernel

theorem earlier_text_lost : ∃ final,
    run (step longTurn) (longTurn.start [] LoopDetector.new)
        [looks "Let me look. ", toolSucceeds, answersLive] = some final ∧
      final.phase = .finished ∧ (start "ask").queuedText final.events = "Done.".toList ∧
        deltaText final.events = "Let me look. Done.".toList := by
  have ends : (run (step longTurn) (longTurn.start [] LoopDetector.new)
      [looks "Let me look. ", toolSucceeds, answersLive]).any (finishes fun events =>
        (start "ask").queuedText events == "Done.".toList &&
          deltaText events == "Let me look. Done.".toList) = true := by
    decide +kernel
  obtain ⟨final, ran, ended⟩ := (Option.any_eq_true _ _).mp ends
  obtain ⟨finished, texts⟩ := finishes_eq_true ended
  obtain ⟨queued, streamed⟩ := Bool.and_eq_true_iff.mp texts
  exact ⟨final, ran, finished, eq_of_beq queued, eq_of_beq streamed⟩

end AppHistory

end OpenJax.Tui
