import OpenJax.Agent.Requests

set_option autoImplicit false

namespace OpenJax.Agent

open Shared Protocol Model Tools

/-- Each start is followed, before the turn is completed, by exactly one completion of the
same call. -/
def StartsCompleted : List Event → Prop
  | [] => True
  | event :: rest =>
      (∀ id, startedId? event = some id →
        (completedIds (rest.takeWhile fun later => !isTurnCompleted later)).count id = 1) ∧
      StartsCompleted rest

instance decidableStartsCompleted : (events : List Event) → Decidable (StartsCompleted events)
  | [] => inferInstanceAs (Decidable True)
  | event :: rest =>
      have := decidableStartsCompleted rest
      inferInstanceAs (Decidable ((∀ id, startedId? event = some id →
        (completedIds (rest.takeWhile fun later => !isTurnCompleted later)).count id = 1) ∧
        StartsCompleted rest))

/-- Each start of a pending call is not followed by a completion yet, each other one by
exactly one. -/
def StartsPending (pending : List String) : List Event → Prop
  | [] => True
  | event :: rest =>
      (∀ id, startedId? event = some id →
        (completedIds rest).count id = if id ∈ pending then 0 else 1) ∧
      StartsPending pending rest

variable {events : List Event} {pending : List String}

theorem startsPending_of_startedIds_nil (quiet : startedIds events = []) :
    StartsPending pending events := by
  induction events with
  | nil => trivial
  | cons event rest ih =>
    cases started : startedId? event with
    | none =>
      rw [startedIds, List.filterMap_cons_none started] at quiet
      refine ⟨?_, ih quiet⟩
      intro id some
      rw [started] at some
      cases some
    | some id =>
      rw [startedIds, List.filterMap_cons_some started] at quiet
      cases quiet

variable {events added : List Event}

theorem StartsPending.append {pending later : List String} (before : StartsPending pending events)
    (after : StartsPending later added) (balance : ∀ id ∈ startedIds events,
      (if id ∈ pending then 0 else 1) + (completedIds added).count id =
        if id ∈ later then 0 else 1) :
    StartsPending later (events ++ added) := by
  induction events with
  | nil => exact after
  | cons event rest ih =>
    rw [List.cons_append]
    refine ⟨?_, ih before.2 ?_⟩
    · intro id started
      have counted := before.1 id started
      have balanced := balance id (by
        rw [startedIds, List.filterMap_cons_some started]
        exact List.mem_cons_self)
      rw [completedIds_append, List.count_append, counted, balanced]
    · intro id member
      apply balance
      rw [startedIds, List.filterMap_cons]
      cases startedId? event with
      | none => exact member
      | some other => exact List.mem_cons_of_mem _ member

theorem StartsPending.startsCompleted (turnId : Nat) (ledger : StartsPending [] events)
    (unfinished : ∀ event ∈ events, isTurnCompleted event = false) :
    StartsCompleted (events ++ [.turnCompleted turnId]) := by
  induction events with
  | nil => exact ⟨by simp [startedId?], trivial⟩
  | cons event rest ih =>
    have later : ∀ other ∈ rest, isTurnCompleted other = false :=
      fun other member => unfinished other (List.mem_cons_of_mem _ member)
    rw [List.cons_append]
    refine ⟨?_, ih ledger.2 later⟩
    intro id started
    have counted := ledger.1 id started
    rw [List.takeWhile_append_of_pos (by simpa using later)]
    simpa [isTurnCompleted] using counted

section Stream

variable (formats : TextFormats) (specs : List ToolSpec) (turnId : Nat)

def deltaStart? : StreamDelta → Option String
  | .toolUseStart id _ => some id
  | _ => none

def Uncompleting (events : List Event) : Prop :=
  completedIds events = [] ∧ ∀ event ∈ events, isTurnCompleted event = false

theorem Uncompleting.append {first second : List Event} (left : Uncompleting first)
    (right : Uncompleting second) : Uncompleting (first ++ second) := by
  refine ⟨by rw [completedIds_append, left.1, right.1, List.append_nil], ?_⟩
  intro event member
  rcases List.mem_append.mp member with inFirst | inSecond
  · exact left.2 event inFirst
  · exact right.2 event inSecond

theorem onDelta_events (stream : PlannerStream) (delta : StreamDelta) :
    ∃ added, (stream.onDelta formats specs turnId delta).events = stream.events ++ added ∧
      startedIds added = (deltaStart? delta).toList ∧ Uncompleting added := by
  cases delta with
  | text delta =>
    by_cases empty : delta.isEmpty = true
    · refine ⟨[], ?_, rfl, rfl, by simp⟩
      simp [PlannerStream.onDelta, PlannerStream.onTextDelta, empty]
    · cases started : stream.orchestratorStarted with
      | true =>
        refine ⟨[.responseTextDelta turnId delta .modelLive], ?_, rfl, rfl,
          by simp [isTurnCompleted]⟩
        simp [PlannerStream.onDelta, PlannerStream.onTextDelta, empty, started, PlannerStream.push]
      | false =>
        refine ⟨[.responseStarted turnId .modelLive, .responseTextDelta turnId delta .modelLive],
          ?_, rfl, rfl, by simp [isTurnCompleted]⟩
        simp [PlannerStream.onDelta, PlannerStream.onTextDelta, empty, started, PlannerStream.push]
  | reasoning delta =>
    by_cases empty : delta.isEmpty = true
    · refine ⟨[], ?_, rfl, rfl, by simp⟩
      simp [PlannerStream.onDelta, empty]
    · refine ⟨[.reasoningDelta turnId delta .modelLive], ?_, rfl, rfl,
        by simp [isTurnCompleted]⟩
      simp [PlannerStream.onDelta, empty, PlannerStream.push]
  | toolUseStart id name => exact ⟨[_], rfl, rfl, rfl, by simp [isTurnCompleted]⟩
  | toolArgsDelta id delta => exact ⟨[_], rfl, rfl, rfl, by simp [isTurnCompleted]⟩
  | toolUseEnd id => exact ⟨[_], rfl, rfl, rfl, by simp [isTurnCompleted]⟩

theorem foldl_onDelta_events (deltas : List StreamDelta) (stream : PlannerStream) :
    ∃ added, (deltas.foldl (PlannerStream.onDelta formats specs turnId) stream).events =
        stream.events ++ added ∧
      startedIds added = deltas.filterMap deltaStart? ∧ Uncompleting added := by
  induction deltas generalizing stream with
  | nil => exact ⟨[], (List.append_nil _).symm, rfl, rfl, by simp⟩
  | cons delta rest ih =>
    obtain ⟨first, firstEvents, firstStarted, firstQuiet⟩ :=
      onDelta_events formats specs turnId stream delta
    obtain ⟨second, secondEvents, secondStarted, secondQuiet⟩ :=
      ih (stream.onDelta formats specs turnId delta)
    refine ⟨first ++ second, ?_, ?_, firstQuiet.append secondQuiet⟩
    · rw [List.foldl_cons, secondEvents, firstEvents, List.append_assoc]
    · rw [startedIds_append, firstStarted, secondStarted]
      cases started : deltaStart? delta <;> simp [started]

theorem consume_events (deltas : List StreamDelta) :
    startedIds (PlannerStream.consume formats specs turnId deltas).events =
        deltas.filterMap deltaStart? ∧
      Uncompleting (PlannerStream.consume formats specs turnId deltas).events := by
  obtain ⟨added, events, started, quiet⟩ :=
    foldl_onDelta_events formats specs turnId deltas PlannerStream.empty
  have same : (PlannerStream.consume formats specs turnId deltas).events = added := events
  rw [same]
  exact ⟨started, quiet⟩

end Stream

/-- The calls a turn has started but not completed, and no end of the turn yet. -/
structure Ledger (pending : List String) (events : List Event) : Prop where
  starts : StartsPending pending events
  unfinished : ∀ event ∈ events, isTurnCompleted event = false

theorem Ledger.add {pending later ids : List String} (ledger : Ledger pending events)
    (completes : Completes ids added) (balance : ∀ id ∈ startedIds events,
      (if id ∈ pending then 0 else 1) + ids.count id = if id ∈ later then 0 else 1) :
    Ledger later (events ++ added) where
  starts := by
    apply ledger.starts.append (startsPending_of_startedIds_nil completes.started)
    rw [completes.completed]
    exact balance
  unfinished event member := by
    rcases List.mem_append.mp member with old | new
    · exact ledger.unfinished event old
    · exact completes.unfinished event new

theorem Ledger.quiet (ledger : Ledger pending events) (completes : Completes [] added) :
    Ledger pending (events ++ added) :=
  ledger.add completes fun _ _ => rfl

theorem Ledger.complete {pending later ids : List String} (ledger : Ledger pending events)
    (completes : Completes ids added) (distinct : pending.Nodup)
    (split : pending.Perm (ids ++ later)) : Ledger later (events ++ added) := by
  apply ledger.add completes
  intro id _
  have apart := (split.nodup_iff.mp distinct)
  have disjoint := List.disjoint_of_nodup_append apart
  have once := apart.of_append_left.count (a := id)
  simp only [once, split.mem_iff, List.mem_append]
  by_cases completed : id ∈ ids
  · have gone : id ∉ later := fun kept => disjoint completed kept
    simp [completed, gone]
  · simp [completed]

theorem Ledger.forget {pending later : List String} (ledger : Ledger pending events)
    (unstarted : ∀ id ∈ startedIds events, (id ∈ pending ↔ id ∈ later)) : Ledger later events := by
  have nothing : Completes [] [] := ⟨rfl, rfl, by simp⟩
  have same : Ledger later (events ++ []) := by
    apply ledger.add nothing
    intro id started
    simp [unstarted id started]
  rwa [List.append_nil] at same

/-- The events of a finished turn pair its starts and completions, those of a running one
leave at most the calls of the current batch open. -/
def Tracked (state : TurnState) : Prop :=
  match state.phase with
  | .awaitingModel => Ledger [] state.events
  | .running batch =>
      Ledger (batch.pending.map ToolUse.id) state.events ∧
        (batch.pending.map ToolUse.id).Nodup
  | .finished => StartsCompleted state.events

variable (turn : Turn) {state : TurnState}

theorem Tracked.finish (ledger : Ledger [] state.events) : Tracked (turn.finish state) :=
  ledger.starts.startsCompleted turn.turnId ledger.unfinished

theorem Tracked.planRound (ledger : Ledger [] state.events) : Tracked (turn.planRound state) := by
  unfold Turn.planRound
  split
  · exact ledger
  · exact .finish turn (ledger.quiet (completes_error ..))

theorem Tracked.advanceBatch {batch : ToolBatch}
    (ledger : Ledger (batch.pending.map ToolUse.id) state.events)
    (distinct : (batch.pending.map ToolUse.id).Nodup) :
    Tracked (turn.advanceBatch state batch) := by
  unfold Turn.advanceBatch
  by_cases emptied : batch.pending = []
  · rw [if_pos (by simp [emptied])]
    apply Tracked.planRound
    rw [emptied] at ledger
    have closed : (turn.closeBatch state batch).events = state.events ++
        [.toolBatchCompleted turn.turnId
          ((batch.executableCount + batch.droppedCount) % 0x100000000)
          batch.succeeded batch.failed] := by
      unfold Turn.closeBatch
      dsimp only
      split <;> rfl
    rw [closed]
    exact ledger.quiet ⟨rfl, rfl, by simp [isTurnCompleted]⟩
  · rw [if_neg (by simp [emptied])]
    exact ⟨ledger, distinct⟩

theorem completes_synthetic (turnId : Nat) (message : String) (chunkLength : Nat) :
    Completes [] (emitSyntheticResponseDeltas turnId message chunkLength) := by
  unfold emitSyntheticResponseDeltas
  induction chunkChars chunkLength [] message.toList with
  | nil => exact ⟨rfl, rfl, by simp⟩
  | cons chunk rest ih =>
    have first : Completes [] [Event.responseTextDelta turnId (String.ofList chunk) .synthetic] :=
      ⟨rfl, rfl, by simp [isTurnCompleted]⟩
    exact first.append ih

theorem completes_finalEvents (stream : PlannerStream) (response : ModelResponse) :
    Completes [] (turn.finalEvents stream response) := by
  unfold Turn.finalEvents
  dsimp only
  split
  · exact ⟨rfl, rfl, by simp [isTurnCompleted]⟩
  · have started : Completes [] [Event.responseStarted turn.turnId .synthetic] :=
      ⟨rfl, rfl, by simp [isTurnCompleted]⟩
    have completed : Completes []
        [Event.responseCompleted turn.turnId response.text .synthetic] :=
      ⟨rfl, rfl, by simp [isTurnCompleted]⟩
    exact (started.append (completes_synthetic ..)).append completed

theorem completes_contextEvents (report : Option (ContextUsage × Option ContextCompaction)) :
    Completes [] (turn.contextEvents report) := by
  unfold Turn.contextEvents
  rcases report with _ | ⟨usage, _ | done⟩ <;>
    exact ⟨rfl, rfl, by simp [isTurnCompleted]⟩

theorem completes_dropped (uses : List ToolUse) :
    Completes (uses.map ToolUse.id) (uses.flatMap turn.droppedEvents) := by
  induction uses with
  | nil => exact ⟨rfl, rfl, by simp⟩
  | cons use rest ih =>
    have failed := completes_failed turn use "tool_call_budget_exhausted" turn.droppedMessage true
    have completed := completes_completed turn use false turn.droppedMessage none
    exact (failed.append completed).append ih

theorem Tracked.beginBatch {uses : List ToolUse}
    (ledger : Ledger (uses.map ToolUse.id) state.events) (distinct : (uses.map ToolUse.id).Nodup) :
    Tracked (turn.beginBatch state uses) := by
  have proposed : Completes []
      [Event.toolCallsProposed turn.turnId (uses.map turn.proposal)] :=
    ⟨rfl, rfl, by simp [isTurnCompleted]⟩
  have completes := proposed.append
    (completes_dropped turn (uses.drop (turn.executableCount state uses)))
  have kept : ((uses.take (turn.executableCount state uses)).map ToolUse.id).Nodup :=
    distinct.sublist ((List.take_sublist ..).map _)
  have parts : uses.Perm (uses.drop (turn.executableCount state uses) ++
      uses.take (turn.executableCount state uses)) := by
    conv_lhs => rw [← List.take_append_drop (turn.executableCount state uses) uses]
    exact List.perm_append_comm
  refine ⟨ledger.complete completes distinct ?_, kept⟩
  rw [List.nil_append, ← List.map_append]
  exact parts.map ToolUse.id

/-- The ids of an answer are distinct and start no second time, and every call started in the
stream is in the assembled response. -/
def StreamsFresh (state : TurnState) : TurnInput → Prop
  | .model answer =>
      match answer.result with
      | .ok response =>
          (response.toolUses.map ToolUse.id).Nodup ∧
            (∀ id ∈ response.toolUses.map ToolUse.id, id ∉ startedIds state.events) ∧
            ∀ id ∈ answer.deltas.filterMap deltaStart?, id ∈ response.toolUses.map ToolUse.id
      | .error _ => answer.deltas.filterMap deltaStart? = []
  | .tool _ => True

instance (state : TurnState) : (input : TurnInput) → Decidable (StreamsFresh state input)
  | .model ⟨_, .ok _, _⟩ => inferInstanceAs (Decidable (_ ∧ _ ∧ _))
  | .model ⟨deltas, .error _, _⟩ =>
      inferInstanceAs (Decidable (deltas.filterMap deltaStart? = []))
  | .tool _ => inferInstanceAs (Decidable True)

def pendingCalls (state : TurnState) : List ToolUse :=
  match state.phase with
  | .running batch => batch.pending
  | _ => []

/-- A started call is neither unnamed nor a duplicate nor one the loop detector halts at, and no
call before a started one in its batch ends the turn. -/
def ReportsCalls (turn : Turn) (state : TurnState) : TurnInput → Prop
  | .model _ => True
  | .tool answer => ∀ use ∈ (pendingCalls state).head?,
      (turn.leavesOpen state use answer = true → use.id ∉ startedIds state.events) ∧
        (turn.stops state use answer = true →
          ∀ later ∈ (pendingCalls state).tail, later.id ∉ startedIds state.events)

instance (turn : Turn) (state : TurnState) :
    (input : TurnInput) → Decidable (ReportsCalls turn state input)
  | .model _ => inferInstanceAs (Decidable True)
  | .tool answer => inferInstanceAs (Decidable (∀ use ∈ (pendingCalls state).head?,
      (turn.leavesOpen state use answer = true → use.id ∉ startedIds state.events) ∧
        (turn.stops state use answer = true →
          ∀ later ∈ (pendingCalls state).tail, later.id ∉ startedIds state.events)))

theorem startsPending_of_uncompleting (started : ∀ id ∈ startedIds events, id ∈ pending)
    (quiet : completedIds events = []) : StartsPending pending events := by
  induction events with
  | nil => trivial
  | cons event rest ih =>
    have later : completedIds rest = [] := by
      rw [completedIds, List.filterMap_cons] at quiet
      cases completed : completedId? event with
      | none => rwa [completed] at quiet
      | some id => rw [completed] at quiet; cases quiet
    refine ⟨?_, ih ?_ later⟩
    · intro id opened
      have pendingId : id ∈ pending := started id (by
        rw [startedIds, List.filterMap_cons_some opened]
        exact List.mem_cons_self)
      rw [later, if_pos pendingId, List.count_nil]
    · intro id member
      apply started
      rw [startedIds, List.filterMap_cons]
      cases startedId? event with
      | none => exact member
      | some other => exact List.mem_cons_of_mem _ member

theorem Ledger.stream {ids : List String} (deltas : List StreamDelta) (ledger : Ledger [] events)
    (fresh : ∀ id ∈ ids, id ∉ startedIds events)
    (assembled : ∀ id ∈ deltas.filterMap deltaStart?, id ∈ ids) :
    Ledger ids (events ++
      (PlannerStream.consume turn.formats turn.toolSpecs turn.turnId deltas).events) := by
  obtain ⟨started, completed, unfinished⟩ :=
    consume_events turn.formats turn.toolSpecs turn.turnId deltas
  constructor
  · apply ledger.starts.append
    · apply startsPending_of_uncompleting
      · rwa [started]
      · exact completed
    · intro id old
      have unused : id ∉ ids := fun member => fresh id member old
      simp [completed, unused]
  · intro event member
    rcases List.mem_append.mp member with old | new
    · exact ledger.unfinished event old
    · exact unfinished event new

theorem Tracked.answerModel {answer : ModelAnswer} (ledger : Ledger [] state.events)
    (streams : StreamsFresh state (.model answer)) : Tracked (turn.answerModel state answer) := by
  unfold Turn.answerModel
  cases answered : answer.result with
  | error message =>
    simp only [StreamsFresh, answered] at streams
    apply Tracked.finish
    refine Ledger.quiet ?_ (completes_error ..)
    apply ledger.stream turn answer.deltas
    · simp
    · simp [streams]
  | ok response =>
    simp only [StreamsFresh, answered] at streams
    obtain ⟨distinct, fresh, assembled⟩ := streams
    have streamed := ledger.stream turn answer.deltas fresh assembled
    have checked := streamed.quiet (completes_contextEvents turn answer.contextUsage)
    dsimp only
    cases used : response.hasToolUse with
    | true =>
      rw [if_pos rfl]
      exact .beginBatch turn checked distinct
    | false =>
      rw [ModelResponse.hasToolUse_eq] at used
      have none : response.toolUses = [] := by simpa using used
      rw [none] at checked
      exact .finish turn (checked.quiet (completes_finalEvents ..))

theorem Tracked.answerTool {state reached : TurnState} {batch : ToolBatch} {use : ToolUse}
    {rest : List ToolUse} (answer : ToolAnswer) (pending : batch.pending = use :: rest)
    (ledger : Ledger (batch.pending.map ToolUse.id) state.events)
    (distinct : (batch.pending.map ToolUse.id).Nodup)
    (reported : turn.leavesOpen state use answer = true → use.id ∉ startedIds state.events)
    (continued : turn.stops state use answer = true →
      ∀ later ∈ rest, later.id ∉ startedIds state.events)
    (answered : turn.answerTool state batch use rest answer = reached) : Tracked reached := by
  obtain ⟨next, outcome, added, executed, frame, effect⟩ :=
    executeNativeToolCall_effect turn state use answer
  rw [pending, List.map_cons] at ledger distinct
  have left : (rest.map ToolUse.id).Nodup := (List.nodup_cons.mp distinct).2
  have unopened : ∀ id ∈ startedIds state.events, use.id ∉ startedIds state.events →
      (id ∈ use.id :: rest.map ToolUse.id ↔ id ∈ rest.map ToolUse.id) := by
    intro id started unstarted
    have other : id ≠ use.id := fun same => unstarted (same ▸ started)
    simp [other]
  have abandoned : (∀ later ∈ rest, later.id ∉ startedIds state.events) →
      ∀ id ∈ startedIds state.events, (id ∈ rest.map ToolUse.id ↔ id ∈ []) := by
    intro unstarted id started
    simp only [List.mem_map, List.not_mem_nil, iff_false, not_exists, not_and]
    intro later member same
    exact unstarted later member (same ▸ started)
  unfold Turn.answerTool at answered
  rw [executed] at answered
  subst answered
  cases effect with
  | executed completes counted =>
    apply Tracked.advanceBatch turn _ left
    rw [frame.events]
    exact ledger.complete completes distinct (.refl _)
  | skipped completes duplicate continues kept =>
    have unstarted := reported (by simp [Turn.leavesOpen, duplicate])
    apply Tracked.advanceBatch turn _ left
    rw [frame.events]
    exact (ledger.forget fun id started => unopened id started unstarted).quiet completes
  | stopped completes leftOpen stops =>
    apply Tracked.finish
    rw [frame.events]
    have current := ledger.forget fun id started => unopened id started (reported leftOpen)
    exact (current.forget (abandoned (continued stops))).quiet completes
  | blocked completes stops =>
    apply Tracked.finish
    rw [frame.events]
    -- The blocked call itself is completed; what the turn leaves behind never started.
    have current := ledger.forget fun id started => by
      have gone := abandoned (continued stops) id started
      exact (show id ∈ use.id :: rest.map ToolUse.id ↔ id ∈ [use.id] by
        rw [List.mem_cons, gone]
        simp)
    exact current.complete completes (List.nodup_singleton _) (.refl _)

theorem Tracked.step :
    Preserves (step turn)
      (fun state input => StreamsFresh state input ∧ ReportsCalls turn state input) Tracked := by
  intro state input next tracked allowed stepped
  obtain ⟨streams, reports⟩ := allowed
  unfold Tracked at tracked
  cases shape : state.phase with
  | awaitingModel =>
    rw [shape] at tracked
    cases input with
    | tool answer => simp [Agent.step, shape] at stepped
    | model answer =>
      simp only [Agent.step, shape, Option.some.injEq] at stepped
      rw [← stepped]
      exact Tracked.answerModel turn tracked streams
  | running batch =>
    rw [shape] at tracked
    cases input with
    | model answer => simp [Agent.step, shape] at stepped
    | tool answer =>
      cases pending : batch.pending with
      | nil => simp [Agent.step, shape, pending] at stepped
      | cons use rest =>
        simp only [Agent.step, shape, pending, Option.some.injEq] at stepped
        have calls : pendingCalls state = use :: rest := by simp [pendingCalls, shape, pending]
        simp only [ReportsCalls, calls, List.head?_cons, List.tail_cons, Option.mem_some,
          forall_eq'] at reports
        exact Tracked.answerTool turn answer pending tracked.1 tracked.2 reports.1 reports.2 stepped
  | finished => cases input <;> simp [Agent.step, shape] at stepped

theorem Tracked.start (history : List HistoryItem) (loopDetector : LoopDetector) :
    Tracked (turn.start history loopDetector) := by
  apply Tracked.planRound
  exact ⟨⟨by simp [startedId?], trivial⟩, by simp [isTurnCompleted]⟩

theorem finished_startsCompleted (turn : Turn) (history : List HistoryItem)
    (loopDetector : LoopDetector) (inputs : List TurnInput) (final : TurnState)
    (meets : Meets (step turn)
      (fun state input => StreamsFresh state input ∧ ReportsCalls turn state input)
      (turn.start history loopDetector) inputs)
    (ran : run (step turn) (turn.start history loopDetector) inputs = some final)
    (finished : final.phase = .finished) : StartsCompleted final.events := by
  have tracked := run_invariant (Tracked.step turn) (Tracked.start turn history loopDetector)
    meets ran
  unfold Tracked at tracked
  rwa [finished] at tracked

section Example

def streamsCall (id : String) : TurnInput :=
  .model ⟨[.toolUseStart id "shell", .toolUseEnd id],
    .ok { content := [listFiles id], stopReason := some .toolUse }, none⟩

def answers : TurnInput :=
  .model ⟨[], .ok { content := [.text "done"], stopReason := some .endTurn }, none⟩

def longTurn : Turn := { shortTurn with maxToolCallsPerTurn := 10 }

def finishes (accepts : List Event → Bool) (state : TurnState) : Bool :=
  match state.phase with
  | .finished => accepts state.events
  | _ => false

theorem finishes_eq_true {accepts : List Event → Bool} {state : TurnState}
    (finished : finishes accepts state = true) :
    state.phase = .finished ∧ accepts state.events = true := by
  unfold finishes at finished
  cases shape : state.phase with
  | finished => rw [shape] at finished; exact ⟨rfl, finished⟩
  | awaitingModel => rw [shape] at finished; cases finished
  | running batch => rw [shape] at finished; cases finished

theorem duplicate_skip_leaves_start_open :
    ¬ ∀ (turn : Turn) (history : List HistoryItem) (loopDetector : LoopDetector)
        (inputs : List TurnInput) (final : TurnState),
      Meets (step turn) StreamsFresh (turn.start history loopDetector) inputs →
      run (step turn) (turn.start history loopDetector) inputs = some final →
      final.phase = .finished → StartsCompleted final.events := by
  intro always
  have leftOpen : (run (step longTurn) (longTurn.start [] LoopDetector.new)
      [streamsCall "c1", toolSucceeds, streamsCall "c2", toolSucceeds, answers]).any
      (finishes fun events => !decide (StartsCompleted events)) = true := by decide +kernel
  have meets : Meets (step longTurn) StreamsFresh (longTurn.start [] LoopDetector.new)
      [streamsCall "c1", toolSucceeds, streamsCall "c2", toolSucceeds, answers] := by
    decide +kernel
  obtain ⟨final, ran, ended⟩ := (Option.any_eq_true _ _).mp leftOpen
  obtain ⟨finished, left⟩ := finishes_eq_true ended
  have completed := always longTurn [] LoopDetector.new _ final meets ran finished
  simp [completed] at left

theorem finished_startsCompleted_after_call :
    ∃ final, run (step longTurn) (longTurn.start [] LoopDetector.new)
        [streamsCall "c1", toolSucceeds, answers] = some final ∧
      startedIds final.events = ["c1"] ∧ StartsCompleted final.events := by
  have meets : Meets (step longTurn)
      (fun state input => StreamsFresh state input ∧ ReportsCalls longTurn state input)
      (longTurn.start [] LoopDetector.new) [streamsCall "c1", toolSucceeds, answers] := by
    decide +kernel
  have ends : (run (step longTurn) (longTurn.start [] LoopDetector.new)
      [streamsCall "c1", toolSucceeds, answers]).any
      (finishes fun events => startedIds events == ["c1"]) = true := by decide +kernel
  obtain ⟨final, ran, ended⟩ := (Option.any_eq_true _ _).mp ends
  obtain ⟨finished, started⟩ := finishes_eq_true ended
  exact ⟨final, ran, eq_of_beq started,
    finished_startsCompleted longTurn [] LoopDetector.new _ final meets ran finished⟩

end Example

end OpenJax.Agent
